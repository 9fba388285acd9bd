import VibeZScripts.Extract.Report

/-! # The layout of the extraction report

`main` gathers the entries in a dict of dicts, keyed by category and then by path, and
`generate_markdown` prints it with both levels sorted. Read off the files the walk
records, the report is a header with the number of categories and files, then each
category in sorted order with its files in path order, each file with every entry
`scan_file` returns for it. Each row of a file's table reads back to the entry it prints,
and stays one line of the table.
-/
namespace VibeZScripts.Extract
open Python

/-- A report grouped as it is printed: categories, each with its files' paths and entries. -/
abbrev ReportGroups := List (List Char × List (List Char × List StringEntry))

def renderReport (groups : ReportGroups) : List Char :=
  (["# User‑Facing Strings – Automated Extraction\n\n".toList,
    "**Categories:** ".toList ++ (toString groups.length).toList ++ "  ".toList,
    "**Files scanned:** ".toList ++ (toString (groups.flatMap Prod.snd).length).toList ++
      "\n\n".toList] ++
    groups.flatMap fun g => ["## ".toList ++ g.1 ++ "\n".toList] ++
      g.2.flatMap (fun f => fileSection f.1 f.2) ++ ["\n".toList]).flatten

def groupRows (groups : ReportGroups) : List (List Char × List Char × List StringEntry) :=
  groups.flatMap fun g => g.2.map fun f => (g.1, f)

/-- What the report must show of the files the walk records: their categories in
sorted order, each once; in each category its files in path order; and every recorded
file, once, under its own category, with the entries `scan_file` returns for it. -/
structure ReportLayout (kept : List (List Char × Option (List Char))) (groups : ReportGroups) :
    Prop where
  categories_sorted : (groups.map Prod.fst).Sorted (· < ·)
  categories_exact : ∀ c, c ∈ groups.map Prod.fst ↔ ∃ f ∈ kept, categorize f.1 = c
  paths_sorted : ∀ g ∈ groups, (g.2.map Prod.fst).Sorted (· < ·)
  files_exact : (groupRows groups).Perm (kept.map fun f => (categorize f.1, f.1, scanFile f.2))

/-- The grouping the loops of `generate_markdown` walk: the categories in sorted order,
each with its paths in sorted order and their entries. -/
def reportGroups (results : Results) : ReportGroups :=
  (sortStrings (results.map Prod.fst)).map fun cat =>
    (cat, (sortStrings (((dictGet results cat).getD []).map Prod.fst)).map fun path =>
      (path, (dictGet ((dictGet results cat).getD []) path).getD []))

/-- `generate_markdown` prints the grouping it walks. -/
theorem generateMarkdown_eq_renderReport {results : Results} (hw : WellKeyed results) :
    generateMarkdown results = renderReport (reportGroups results) := by
  have hlen : (reportGroups results).length = results.length := by
    rw [reportGroups, List.length_map, (sortStrings_perm _).length_eq, List.length_map]
  have hsum : ((reportGroups results).flatMap Prod.snd).length =
      (results.map fun r => r.2.length).foldl (· + ·) 0 := by
    rw [← List.sum_eq_foldl, map_snd_eq_map_keys hw.cats_nodup (·.length) [],
      List.length_flatMap, reportGroups, List.map_map]
    refine Eq.trans ?_ ((sortStrings_perm _).map _).sum_eq
    simp [Function.comp_def, (sortStrings_perm _).length_eq]
  rw [generateMarkdown, renderReport, hlen, hsum, reportGroups, List.flatMap_map]
  simp [categorySection, List.flatMap_map]

theorem mem_keptFiles {files : List (List Char × Option (List Char))}
    {f : List Char × Option (List Char)} :
    f ∈ keptFiles files ↔ f ∈ files ∧ isSkipped f.1 = false ∧ scanFile f.2 ≠ [] := by
  simp [keptFiles]

theorem resultsGet_collectResults_eq_some {files : List (List Char × Option (List Char))}
    (hd : (files.map Prod.fst).Nodup) (cat path : List Char) (es : List StringEntry) :
    resultsGet (collectResults files) cat path = some es ↔
      ∃ f ∈ keptFiles files, categorize f.1 = cat ∧ f.1 = path ∧ scanFile f.2 = es := by
  have hmem : es ∈ files.filterMap (fileEntries · cat path) ↔
      ∃ f ∈ keptFiles files, categorize f.1 = cat ∧ f.1 = path ∧ scanFile f.2 = es := by
    simp only [List.mem_filterMap, fileEntries, mem_keptFiles]
    constructor
    · rintro ⟨f, hf, h⟩
      split at h
      · obtain ⟨rfl, hs, hc, he⟩ := ‹_ ∧ _›
        exact ⟨f, ⟨hf, hs, he⟩, hc, rfl, Option.some.inj h⟩
      · cases h
    · rintro ⟨f, ⟨hf, hs, he⟩, hc, rfl, rfl⟩
      exact ⟨f, hf, by simp [hs, hc, he]⟩
  rw [resultsGet_collectResults, expectedEntries, ← hmem]
  match files.filterMap (fileEntries · cat path), length_filterMap_fileEntries_le hd cat path with
  | [], _ => simp
  | [x], _ => simp [eq_comm]
  | _ :: _ :: _, h => simp at h

theorem mem_groupRows_reportGroups {results : Results} (hw : WellKeyed results)
    (cat path : List Char) (es : List StringEntry) :
    (cat, path, es) ∈ groupRows (reportGroups results) ↔ resultsGet results cat path = some es := by
  simp only [groupRows, reportGroups, List.flatMap_map, List.map_map, Function.comp_def]
  constructor
  · intro h
    obtain ⟨c, -, hr⟩ := List.mem_flatMap.mp h
    obtain ⟨p, hp, he⟩ := List.mem_map.mp hr
    simp only [Prod.mk.injEq] at he
    obtain ⟨rfl, rfl, rfl⟩ := he
    obtain ⟨es, hes⟩ := Option.ne_none_iff_exists'.mp
      ((mem_paths_iff _ _ _).mp ((sortStrings_perm _).mem_iff.mp hp))
    rw [dictGet_getD_eq_resultsGet, hes, Option.getD_some]
  · intro h
    have hne : resultsGet results cat path ≠ none := by simp [h]
    refine List.mem_flatMap.mpr ⟨cat, (sortStrings_perm _).mem_iff.mpr
      ((hw.mem_cats_iff cat).mpr ⟨path, hne⟩), List.mem_map.mpr ⟨path, ?_, ?_⟩⟩
    · exact (sortStrings_perm _).mem_iff.mpr ((mem_paths_iff _ _ _).mpr hne)
    · rw [dictGet_getD_eq_resultsGet, h, Option.getD_some]

theorem WellKeyed.nodup_groupRows {results : Results} (hw : WellKeyed results) :
    (groupRows (reportGroups results)).Nodup := by
  refine List.nodup_flatMap.mpr ⟨fun g hg => ?_, ?_⟩
  · obtain ⟨cat, -, rfl⟩ := List.mem_map.mp hg
    refine (List.Nodup.of_map Prod.fst ?_).map (Prod.mk.inj_left cat)
    simpa [List.map_map, Function.comp_def] using
      (sortStrings_perm _).nodup_iff.mpr (hw.nodup_paths cat)
  · have hcats : ((reportGroups results).map Prod.fst).Nodup := by
      simpa [reportGroups, List.map_map, Function.comp_def] using
        (sortStrings_perm _).nodup_iff.mpr hw.cats_nodup
    refine (List.pairwise_map.mp hcats).imp fun {a b} hab => ?_
    simp only [List.disjoint_left, List.mem_map]
    rintro _ ⟨f, -, rfl⟩ ⟨g, -, hg⟩
    exact hab (Prod.mk.inj hg).1.symm

/-- With distinct paths, the grouping `generate_markdown` walks has the layout of the
report on the files the walk records. -/
theorem reportLayout_reportGroups {files : List (List Char × Option (List Char))}
    (hd : (files.map Prod.fst).Nodup) :
    ReportLayout (keptFiles files) (reportGroups (collectResults files)) := by
  have hw := wellKeyed_collectResults files
  have hcats : (reportGroups (collectResults files)).map Prod.fst =
      sortStrings ((collectResults files).map Prod.fst) := by
    simp [reportGroups, List.map_map, Function.comp_def]
  have hkept : ((keptFiles files).map fun f => (categorize f.1, f.1, scanFile f.2)).Nodup := by
    refine List.Nodup.of_map (fun r => r.2.1) ?_
    simpa [List.map_map, Function.comp_def] using hd.sublist ((List.filter_sublist _).map _)
  refine ⟨?_, fun c => ?_, fun g hg => ?_, ?_⟩
  · exact hcats ▸ sortStrings_sorted hw.cats_nodup
  · simp only [hcats, (sortStrings_perm _).mem_iff, hw.mem_cats_iff,
      resultsGet_collectResults_ne_none]
    exact ⟨fun ⟨_, f, hf, hc, _⟩ => ⟨f, hf, hc⟩, fun ⟨f, hf, hc⟩ => ⟨f.1, f, hf, hc, rfl⟩⟩
  · obtain ⟨cat, -, rfl⟩ := List.mem_map.mp hg
    simpa [List.map_map, Function.comp_def] using sortStrings_sorted (hw.nodup_paths cat)
  · refine (List.perm_ext_iff_of_nodup hw.nodup_groupRows hkept).mpr fun ⟨c, p, es⟩ => ?_
    rw [mem_groupRows_reportGroups hw, resultsGet_collectResults_eq_some hd]
    simp [and_assoc]

/-! ### The layout fixes the report -/

theorem mem_files_iff_mem_groupRows {groups : ReportGroups}
    (hs : (groups.map Prod.fst).Sorted (· < ·)) {cat : List Char}
    {files : List (List Char × List StringEntry)} (hg : (cat, files) ∈ groups)
    (x : List Char × List StringEntry) : x ∈ files ↔ (cat, x) ∈ groupRows groups := by
  refine ⟨fun h => List.mem_flatMap.mpr ⟨_, hg, List.mem_map.mpr ⟨_, h, rfl⟩⟩, fun h => ?_⟩
  obtain ⟨g, hg', hr⟩ := List.mem_flatMap.mp h
  obtain ⟨f, hf, he⟩ := List.mem_map.mp hr
  obtain ⟨hc, rfl⟩ := Prod.mk.inj he
  rwa [List.inj_on_of_nodup_map hs.nodup hg' hg hc] at hf

theorem ReportLayout.mem_of_mem {kept : List (List Char × Option (List Char))}
    {g₁ g₂ : ReportGroups} (h₁ : ReportLayout kept g₁) (h₂ : ReportLayout kept g₂)
    {x : List Char × List (List Char × List StringEntry)} (hx : x ∈ g₁) : x ∈ g₂ := by
  obtain ⟨⟨c, fs⟩, hy, hc⟩ := List.mem_map.mp ((h₂.categories_exact x.1).mpr
    ((h₁.categories_exact x.1).mp (List.mem_map_of_mem _ hx)))
  obtain ⟨cat, files⟩ := x
  obtain rfl : c = cat := hc
  have hfs : files = fs := eq_of_sorted_keys (h₁.paths_sorted _ hx) (h₂.paths_sorted _ hy)
    fun r => by
      rw [mem_files_iff_mem_groupRows h₁.categories_sorted hx,
        mem_files_iff_mem_groupRows h₂.categories_sorted hy,
        h₁.files_exact.mem_iff, h₂.files_exact.mem_iff]
  exact hfs ▸ hy

/-- Two groupings with the layout of the same files are equal. -/
theorem ReportLayout.unique {kept : List (List Char × Option (List Char))}
    {g₁ g₂ : ReportGroups} (h₁ : ReportLayout kept g₁) (h₂ : ReportLayout kept g₂) : g₁ = g₂ :=
  eq_of_sorted_keys h₁.categories_sorted h₂.categories_sorted fun _ =>
    ⟨h₁.mem_of_mem h₂, h₂.mem_of_mem h₁⟩

/-- With distinct paths, the report is the rendering of the layout of the files the walk
records: that layout exists, and any grouping with it renders to the report. -/
theorem extractionReport_layout {files : List (List Char × Option (List Char))}
    (hd : (files.map Prod.fst).Nodup) :
    (∃ groups, ReportLayout (keptFiles files) groups) ∧
      ∀ groups, ReportLayout (keptFiles files) groups →
        extractionReport files = renderReport groups :=
  ⟨⟨_, reportLayout_reportGroups hd⟩, fun _ h => by
    rw [extractionReport, generateMarkdown_eq_renderReport (wellKeyed_collectResults files),
      (reportLayout_reportGroups hd).unique h]⟩

theorem extractionReport_layout_two_files :
    (["src/auth/login.ts".toList, "src/util.ts".toList] : List (List Char)).Nodup ∧
      (∃ groups, ReportLayout (keptFiles [("src/auth/login.ts".toList,
        some "title: \"Sign in\"".toList), ("src/util.ts".toList, none)]) groups) ∧
      ∀ groups, ReportLayout (keptFiles [("src/auth/login.ts".toList,
        some "title: \"Sign in\"".toList), ("src/util.ts".toList, none)]) groups →
        extractionReport [("src/auth/login.ts".toList, some "title: \"Sign in\"".toList),
          ("src/util.ts".toList, none)] = renderReport groups :=
  have hd : (["src/auth/login.ts".toList, "src/util.ts".toList] : List (List Char)).Nodup := by
    decide
  ⟨hd, extractionReport_layout hd⟩

/-! ### Reading a table row back

`escape_pipes` writes each `|` of a string as `\|`. A GFM table cuts a row at every
`|` not written `\|` and reads `\|` in a cell as `|`; so every row of a file's table
has the line number, the string and the context as its three cells, whatever pipes
and backslashes they hold. -/

def prependCell (p : List Char) : List (List Char) → List (List Char)
  | [] => [p]
  | x :: xs => (p ++ x) :: xs

/-- The pieces of a table row as GFM cuts it: at every `|` not written `\|`. -/
def splitCells : List Char → List (List Char)
  | '\\' :: '|' :: cs => prependCell ['\\', '|'] (splitCells cs)
  | '|' :: cs => [] :: splitCells cs
  | c :: cs => prependCell [c] (splitCells cs)
  | [] => [[]]

/-- GFM reads `\|` in a cell as `|`. -/
def unescapePipes : List Char → List Char
  | '\\' :: '|' :: cs => '|' :: unescapePipes cs
  | c :: cs => c :: unescapePipes cs
  | [] => []

theorem prependCell_append (p q : List Char) (l : List (List Char)) :
    prependCell (p ++ q) l = prependCell p (prependCell q l) := by
  cases l <;> simp [prependCell]

theorem prependCell_ne_nil (p : List Char) (l : List (List Char)) : prependCell p l ≠ [] := by
  cases l <;> simp [prependCell]

theorem splitCells_ne_nil (s : List Char) : splitCells s ≠ [] := by
  unfold splitCells
  split <;> simp [prependCell_ne_nil]

theorem prependCell_nil (s : List Char) : prependCell [] (splitCells s) = splitCells s := by
  cases h : splitCells s with
  | nil => exact absurd h (splitCells_ne_nil s)
  | cons x xs => rfl

theorem splitCells_cons {c : Char} {cs : List Char} (hc : c ≠ '|')
    (h : c = '\\' → cs.head? ≠ some '|') :
    splitCells (c :: cs) = prependCell [c] (splitCells cs) :=
  splitCells.eq_3 c cs (fun _ hc' hcs => h hc' (by simp [hcs])) hc

theorem unescapePipes_cons {c : Char} {cs : List Char} (h : c = '\\' → cs.head? ≠ some '|') :
    unescapePipes (c :: cs) = c :: unescapePipes cs :=
  unescapePipes.eq_2 c cs fun _ hc' hcs => h hc' (by simp [hcs])

theorem head_escapePipes_append {s t : List Char} (ht : t.head? ≠ some '|') :
    (escapePipes s ++ t).head? ≠ some '|' := by
  cases s with
  | nil => exact ht
  | cons c s => by_cases hc : c = '|' <;> simp [escapePipes, hc]

theorem escapePipes_cons (c : Char) (s : List Char) :
    escapePipes (c :: s) = (if c = '|' then ['\\', '|'] else [c]) ++ escapePipes s := by
  simp [escapePipes]

theorem splitCells_escapePipes_append (s : List Char) {t : List Char} (ht : t.head? ≠ some '|') :
    splitCells (escapePipes s ++ t) = prependCell (escapePipes s) (splitCells t) := by
  induction s with
  | nil => exact (prependCell_nil t).symm
  | cons c s ih =>
    have hrest := head_escapePipes_append (s := s) ht
    rw [escapePipes_cons, prependCell_append, ← ih]
    by_cases hc : c = '|'
    · simp only [hc, if_true, List.cons_append, List.nil_append, List.append_assoc]
      rw [splitCells]
    · simp only [hc, if_false, List.singleton_append, List.append_assoc]
      exact splitCells_cons hc fun _ => hrest

theorem unescapePipes_escapePipes_append (s : List Char) {t : List Char}
    (ht : t.head? ≠ some '|') : unescapePipes (escapePipes s ++ t) = s ++ unescapePipes t := by
  induction s with
  | nil => rfl
  | cons c s ih =>
    have hrest := head_escapePipes_append (s := s) ht
    rw [escapePipes_cons]
    by_cases hc : c = '|'
    · simp only [hc, if_true, List.cons_append, List.nil_append, List.append_assoc]
      rw [unescapePipes, ih]
    · simp only [hc, if_false, List.cons_append, List.nil_append]
      rw [unescapePipes_cons fun _ => hrest, ih]

theorem pipe_not_mem_toString (n : ℕ) : '|' ∉ (toString n).toList := fun h =>
  have hdigit : ∀ k < 10, Nat.digitChar k ≠ '|' := by decide
  let ⟨k, hk, he⟩ := mem_toString_nat h
  hdigit k hk he.symm

theorem escapePipes_eq_self {s : List Char} (h : '|' ∉ s) : escapePipes s = s := by
  induction s with
  | nil => rfl
  | cons c s ih =>
    rw [List.mem_cons, not_or] at h
    rw [escapePipes_cons, if_neg (Ne.symm h.1), ih h.2, List.singleton_append]

theorem splitCells_cell (s rest : List Char) :
    splitCells (escapePipes (' ' :: s) ++ ' ' :: '|' :: rest) =
      (escapePipes (' ' :: s) ++ [' ']) :: splitCells rest := by
  rw [splitCells_escapePipes_append _ (by simp), splitCells_cons (by decide) (by simp),
    splitCells]
  simp [prependCell]

theorem entryRow_eq (e : StringEntry) :
    entryRow e = '|' :: (escapePipes (' ' :: (toString e.line).toList) ++ ' ' :: '|' ::
      (escapePipes (' ' :: e.string) ++ ' ' :: '|' ::
        (escapePipes (' ' :: e.context) ++ [' ', '|', '\n']))) := by
  simp only [entryRow, escapePipes_cons, escapePipes_eq_self (pipe_not_mem_toString e.line),
    if_neg (show ' ' ≠ '|' by decide), List.append_assoc, List.singleton_append, List.cons_append]
  rfl

/-- GFM cuts every row of a file's table into the outer pipes and three cells that hold,
once `\|` is read as `|`, the line number, the string and the context, each padded by
one space. -/
theorem entryRow_cells (e : StringEntry) :
    (splitCells (entryRow e)).map unescapePipes =
      [[], ' ' :: (toString e.line).toList ++ [' '], ' ' :: e.string ++ [' '],
        ' ' :: e.context ++ [' '], ['\n']] := by
  have hcell (s : List Char) :
      unescapePipes (escapePipes (' ' :: s) ++ [' ']) = ' ' :: s ++ [' '] :=
    unescapePipes_escapePipes_append _ (by simp)
  rw [entryRow_eq, splitCells, splitCells_cell, splitCells_cell, splitCells_cell]
  simp only [List.map_cons, hcell]
  rfl

/-! ### A row is one line

`scan_file` reads the file line by line after newline translation, a quoted string
stands between two quotes of its line, and the context is the stripped line: so no
string or context of an entry holds a line break, and the row of an entry stays one
line of the table. -/

theorem cr_not_mem_of_mem_fileLines {text l : List Char}
    (h : l ∈ fileLines (universalNewlines text)) : '\r' ∉ l := fun hc => by
  apply cr_not_mem_universalNewlines text
  rw [← flatten_fileLines (universalNewlines text)]
  exact List.mem_flatten.mpr ⟨l, h, hc⟩

theorem fileLines_line {b : List Char} (hb : '\n' ∉ b) :
    fileLines (b ++ ['\n']) = [b ++ ['\n']] := by
  induction b with
  | nil => rfl
  | cons c b ih =>
    rw [List.mem_cons, not_or] at hb
    rw [List.cons_append, fileLines, if_neg (Ne.symm hb.1), ih hb.2]

theorem exists_line_of_mem_scanFile {text : List Char} {e : StringEntry}
    (h : e ∈ scanFile (some text)) : ∃ raw ∈ fileLines (universalNewlines text),
      e.string ∈ extractQuotedStrings raw ∧ e.context = (strip raw).take 100 := by
  obtain ⟨⟨n, raw⟩, hl, he⟩ := List.mem_flatMap.mp h
  unfold scanLine at he
  split at he
  · obtain ⟨s, hs, rfl⟩ := List.mem_map.mp he
    exact ⟨raw, List.snd_mem_of_mem_enumFrom hl, hs, rfl⟩
  · cases he

theorem newline_not_mem_of_quoted {raw s : List Char} (hraw : '\n' ∉ raw.dropLast) {q : Char}
    (h : q :: s ++ [q] <:+: raw) : '\n' ∉ s := by
  obtain ⟨a, b, rfl⟩ := h
  have hsplit : a ++ (q :: s ++ [q]) ++ b = (a ++ q :: s) ++ q :: b := by simp
  rw [hsplit, List.dropLast_append_of_ne_nil _ (List.cons_ne_nil _ _)] at hraw
  exact fun hs => hraw (by simp [hs])

theorem strip_sublist (s : List Char) : List.Sublist (strip s) s := by
  have h : List.Sublist (strip s) (s.dropWhile isSpace).reverse.reverse :=
    List.reverse_sublist.mpr (List.dropWhile_sublist _)
  rw [List.reverse_reverse] at h
  exact h.trans (List.dropWhile_sublist _)

theorem strip_append_space {b : List Char} {c : Char} (hc : isSpace c) :
    strip (b ++ [c]) = strip b := by
  unfold strip
  rw [List.dropWhile_append]
  split
  · rename_i h
    simp [List.isEmpty_iff.mp h, hc]
  · simp [hc]

theorem newline_not_mem_strip {raw : List Char} (hraw : '\n' ∉ raw.dropLast) :
    '\n' ∉ strip raw := by
  rcases List.eq_nil_or_concat raw with rfl | ⟨b, x, rfl⟩
  · decide
  · rw [List.concat_eq_append] at hraw ⊢
    rw [List.dropLast_concat] at hraw
    by_cases hx : x = '\n'
    · rw [hx, strip_append_space (by decide)]
      exact fun h => hraw ((strip_sublist b).subset h)
    · intro h
      rcases List.mem_append.mp ((strip_sublist _).subset h) with h | h
      · exact hraw h
      · exact hx (List.mem_singleton.mp h).symm

theorem mem_escapePipes {c : Char} {s : List Char} (h : c ∈ escapePipes s) :
    c = '\\' ∨ c ∈ s := by
  obtain ⟨d, hd, hc⟩ := List.mem_flatMap.mp h
  split at hc
  · rcases List.mem_cons.mp hc with rfl | hc
    · exact .inl rfl
    · exact .inr (List.mem_singleton.mp hc ▸ ‹d = '|'› ▸ hd)
  · exact .inr (List.mem_singleton.mp hc ▸ hd)

theorem entryRow_eq_dropLast (e : StringEntry) :
    entryRow e = (entryRow e).dropLast ++ ['\n'] := by
  have hend (l : List Char) : l ++ " |\n".toList = (l ++ " |\n".toList).dropLast ++ ['\n'] := by
    rw [List.dropLast_append_of_ne_nil _ (by decide), List.append_assoc]
    rfl
  exact hend _

/-- A line break in a row before its newline comes from the string or the context. -/
theorem break_not_mem_entryRow {e : StringEntry} {x : Char} (hx : x = '\n' ∨ x = '\r')
    (hs : x ∉ e.string) (hc : x ∉ e.context) : x ∉ (entryRow e).dropLast := by
  have hlit : ∀ l : List Char, l ⊆ "| \\".toList → x ∉ l := fun l hl h => by
    have := hl h; rcases hx with rfl | rfl <;> revert this <;> decide
  have hesc : ∀ s, x ∉ s → x ∉ escapePipes s := fun s hs h =>
    (mem_escapePipes h).elim (fun e => hlit ['\\'] (by decide) (by simp [e])) hs
  have hdigit : x ∉ (toString e.line).toList := fun h => by
    obtain ⟨k, hk, rfl⟩ := mem_toString_nat h
    have : ∀ k < 10, Nat.digitChar k ≠ '\n' ∧ Nat.digitChar k ≠ '\r' := by decide
    exact hx.elim (this k hk).1 (this k hk).2
  rw [entryRow, List.dropLast_append_of_ne_nil _ (by decide)]
  simp only [List.mem_append, not_or]
  exact ⟨⟨⟨⟨⟨⟨hlit _ (by decide), hdigit⟩, hlit _ (by decide)⟩, hesc _ hs⟩, hlit _ (by decide)⟩,
    hesc _ hc⟩, hlit _ (by decide)⟩

/-- The row `generate_markdown` writes for an entry of `scan_file` is one line: it holds
no carriage return, and its only newline is the one that ends it. -/
theorem entryRow_one_line {text : List Char} {e : StringEntry} (h : e ∈ scanFile (some text)) :
    '\r' ∉ entryRow e ∧ fileLines (entryRow e) = [entryRow e] := by
  obtain ⟨raw, hraw, hs, hc⟩ := exists_line_of_mem_scanFile h
  have hnl := (mem_fileLines hraw).2
  have hcr := cr_not_mem_of_mem_fileLines hraw
  obtain ⟨q, -, hq⟩ := exists_quoted_infix (List.mem_filter.mp hs).1
  have hctx : e.context ⊆ strip raw := hc ▸ (List.take_sublist _ _).subset
  have hrow := entryRow_eq_dropLast e
  refine ⟨fun h => ?_, ?_⟩
  · rw [hrow, List.mem_append] at h
    exact h.elim (break_not_mem_entryRow (.inr rfl) (fun h => hcr (hq.subset (by simp [h])))
      fun h => hcr ((strip_sublist raw).subset (hctx h))) (by decide)
  · rw [hrow]
    exact fileLines_line (break_not_mem_entryRow (.inl rfl) (newline_not_mem_of_quoted hnl hq)
      fun h => newline_not_mem_strip hnl (hctx h))

unseal Pattern.findall in
theorem entryRow_one_line_sign_in :
    (⟨1, "Sign in".toList, "title: \"Sign in\"".toList⟩ : StringEntry) ∈
        scanFile (some "title: \"Sign in\"".toList) ∧
      '\r' ∉ entryRow ⟨1, "Sign in".toList, "title: \"Sign in\"".toList⟩ ∧
      fileLines (entryRow ⟨1, "Sign in".toList, "title: \"Sign in\"".toList⟩) =
        [entryRow ⟨1, "Sign in".toList, "title: \"Sign in\"".toList⟩] :=
  have h : (⟨1, "Sign in".toList, "title: \"Sign in\"".toList⟩ : StringEntry) ∈
      scanFile (some "title: \"Sign in\"".toList) := by decide
  ⟨h, entryRow_one_line h⟩

end VibeZScripts.Extract
