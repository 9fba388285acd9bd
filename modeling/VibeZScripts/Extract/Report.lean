import VibeZScripts.Extract.Patterns
import VibeZScripts.Python.Dict
import Mathlib.Algebra.BigOperators.Group.List

/-! # The report of `extract_strings.py`

`main` walks the `.ts*` files under `src/`, skips tests, type declarations and
`node_modules`, scans every line of each file and groups the strings it finds by
category and file; `generate_markdown` prints the groups in sorted order. The
walk is given as the list of paths it yields, each with its text, or `none` when
the file cannot be opened or decoded.
-/
namespace VibeZScripts.Extract
open Python

structure StringEntry where
  line : ℕ
  string : List Char
  context : List Char
  deriving DecidableEq, Repr, Inhabited

/-- Iterating over a text file: every line keeps its newline, and a last line
without one is yielded as it is. -/
def fileLines : List Char → List (List Char)
  | [] => []
  | c :: cs =>
    if c = '\n' then ['\n'] :: fileLines cs
    else
      match fileLines cs with
      | [] => [[c]]
      | l :: ls => (c :: l) :: ls

theorem flatten_fileLines (text : List Char) : (fileLines text).flatten = text := by
  induction text with
  | nil => rfl
  | cons c cs ih =>
    unfold fileLines
    split
    · simp_all
    · split <;> simp_all

theorem mem_fileLines {text l : List Char} (h : l ∈ fileLines text) :
    l ≠ [] ∧ '\n' ∉ l.dropLast := by
  induction text generalizing l with
  | nil => cases h
  | cons c cs ih =>
    unfold fileLines at h
    split at h
    · rcases List.mem_cons.mp h with rfl | h
      · simp
      · exact ih h
    · rename_i hc
      split at h
      · simp_all
      · rename_i l' ls hcs
        rcases List.mem_cons.mp h with rfl | h
        · have := ih (hcs ▸ List.mem_cons_self l' ls)
          obtain ⟨d, ds, rfl⟩ := List.exists_cons_of_ne_nil this.1
          simp [List.dropLast_cons_of_ne_nil, Ne.symm hc, this]
        · exact ih (hcs ▸ List.mem_cons_of_mem _ h)

/-- `scan_file` on one line: the strings of a user-facing line, with its number
and its first hundred characters after stripping. -/
def scanLine (lineno : ℕ) (raw : List Char) : List StringEntry :=
  if isUserFacing raw then
    (extractQuotedStrings raw).map fun s => ⟨lineno, s, (strip raw).take 100⟩
  else []

/-- `scan_file`: lines are numbered from 1; a file that cannot be read gives no entries. -/
def scanFile : Option (List Char) → List StringEntry
  | none => []
  | some text => ((fileLines (universalNewlines text)).enumFrom 1).flatMap fun l => scanLine l.1 l.2

/-- `CATEGORIES` of `categorize`, in the dictionary's order. -/
def categories : List (String × List String) :=
  [("Authentication", ["auth", "login", "signin", "signup"]),
    ("Moderation", ["moderation", "flagging"]),
    ("Messaging", ["message", "chat"]),
    ("User Management", ["user", "profile"]),
    ("Rooms", ["room"]),
    ("Subscriptions", ["subscription", "iap", "entitlement"]),
    ("File Management", ["file", "upload", "storage"]),
    ("Notifications", ["notify", "notification", "alert"]),
    ("Search", ["search"]),
    ("Telemetry", ["telemetry", "analytics"]),
    ("Video/Voice", ["video", "voice", "agora", "livekit"]),
    ("Admin", ["admin"]),
    ("Gamification", ["gamification", "achievement"]),
    ("Scheduling", ["scheduling", "calendar"]),
    ("Privacy", ["privacy", "gdpr"]),
    ("Security", ["security", "encryption", "brute"]),
    ("Rate Limiting", ["rate-limit"]),
    ("Error Handling", ["error-middleware"]),
    ("Validation", ["validation"])]

/-- `categorize`: the first category one of whose keywords occurs in the lower-cased path. -/
def categorize (path : List Char) : List Char :=
  match categories.find? fun c =>
      c.2.any fun kw => decide (kw.toList <:+: lower path) with
  | some c => c.1.toList
  | none => "Other".toList

def skipMarkers : List String := ["__tests__", ".test.", ".spec.", ".d.ts", "node_modules"]

def isSkipped (path : List Char) : Bool :=
  skipMarkers.any fun m => decide (m.toList <:+: path)

/-- `results`: category, then file, then the entries found in it. -/
abbrev Results := List (List Char × List (List Char × List StringEntry))

/-- `results[cat][path].extend(entries)`. -/
def addEntries (results : Results) (cat path : List Char) (entries : List StringEntry) : Results :=
  dictUpdate results cat [] fun files => dictUpdate files path [] (· ++ entries)

/-- One turn of the loop of `main`. -/
def collectStep (results : Results) (f : List Char × Option (List Char)) : Results :=
  if isSkipped f.1 then results
  else if scanFile f.2 = [] then results
  else addEntries results (categorize f.1) f.1 (scanFile f.2)

def collectResults (files : List (List Char × Option (List Char))) : Results :=
  files.foldl collectStep []

/-- `s.replace("|", "\\|")`. -/
def escapePipes (s : List Char) : List Char :=
  s.flatMap fun c => if c = '|' then ['\\', '|'] else [c]

def entryRow (e : StringEntry) : List Char :=
  "| ".toList ++ (toString e.line).toList ++ " | ".toList ++ escapePipes e.string ++ " | ".toList ++
    escapePipes e.context ++ " |\n".toList

def fileSection (path : List Char) (entries : List StringEntry) : List (List Char) :=
  ["\n### `".toList ++ path ++ "`\n".toList,
    "**Found ".toList ++ (toString entries.length).toList ++ " strings**\n\n".toList,
    "| Line | String | Context |\n".toList, "|------|--------|----------|\n".toList] ++
    entries.map entryRow

def categorySection (cat : List Char) (files : List (List Char × List StringEntry)) :
    List (List Char) :=
  ["## ".toList ++ cat ++ "\n".toList] ++
    ((sortStrings (files.map Prod.fst)).flatMap fun path =>
      fileSection path ((dictGet files path).getD [])) ++
    ["\n".toList]

/-- `generate_markdown`. -/
def generateMarkdown (results : Results) : List Char :=
  (["# User‑Facing Strings – Automated Extraction\n\n".toList,
    "**Categories:** ".toList ++ (toString results.length).toList ++ "  ".toList,
    "**Files scanned:** ".toList ++
      (toString ((results.map fun r => r.2.length).foldl (· + ·) 0)).toList ++ "\n\n".toList] ++
    (sortStrings (results.map Prod.fst)).flatMap fun cat =>
      categorySection cat ((dictGet results cat).getD [])).flatten

/-- The text `main` writes to `USER_FACING_STRINGS_AUTO.md`. -/
def extractionReport (files : List (List Char × Option (List Char))) : List Char :=
  generateMarkdown (collectResults files)

/-! ### What the results hold -/

def resultsGet (results : Results) (cat path : List Char) : Option (List StringEntry) :=
  (dictGet results cat).bind fun files => dictGet files path

theorem resultsGet_addEntries (results : Results) (cat path cat' path' : List Char)
    (es : List StringEntry) :
    resultsGet (addEntries results cat path es) cat' path' =
      if cat' = cat ∧ path' = path then some ((resultsGet results cat path).getD [] ++ es)
      else resultsGet results cat' path' := by
  unfold resultsGet addEntries
  rw [dictGet_dictUpdate]
  by_cases hc : cat' = cat
  · subst hc
    by_cases hp : path' = path
    · subst hp; cases dictGet results cat' <;> simp [dictGet_dictUpdate]
    · cases dictGet results cat' <;> simp [dictGet_dictUpdate, hp]
  · simp [hc]

def fileEntries (f : List Char × Option (List Char)) (cat path : List Char) :
    Option (List StringEntry) :=
  if f.1 = path ∧ isSkipped path = false ∧ categorize path = cat ∧ scanFile f.2 ≠ [] then
    some (scanFile f.2)
  else none

def expectedEntries (files : List (List Char × Option (List Char))) (cat path : List Char) :
    Option (List StringEntry) :=
  if files.filterMap (fileEntries · cat path) = [] then none
  else some (files.filterMap (fileEntries · cat path)).flatten

theorem resultsGet_collectStep (results : Results) (f : List Char × Option (List Char))
    (cat path : List Char) :
    resultsGet (collectStep results f) cat path =
      match fileEntries f cat path with
      | some es => some ((resultsGet results cat path).getD [] ++ es)
      | none => resultsGet results cat path := by
  unfold collectStep fileEntries
  by_cases hs : isSkipped f.1 = true
  · rw [if_pos hs, if_neg]
    rintro ⟨rfl, h, -⟩; simp [hs] at h
  rw [if_neg hs]
  by_cases he : scanFile f.2 = []
  · rw [if_pos he, if_neg (by simp [he])]
  rw [if_neg he, resultsGet_addEntries]
  by_cases hp : f.1 = path
  · subst hp
    by_cases hc : categorize f.1 = cat
    · simp [hc, hs, he]
    · simp [hc, Ne.symm hc]
  · simp [hp, Ne.symm hp]

theorem resultsGet_foldl_collectStep (files : List (List Char × Option (List Char)))
    (results : Results) (cat path : List Char) :
    resultsGet (files.foldl collectStep results) cat path =
      if files.filterMap (fileEntries · cat path) = [] then resultsGet results cat path
      else some ((resultsGet results cat path).getD [] ++
        (files.filterMap (fileEntries · cat path)).flatten) := by
  induction files generalizing results with
  | nil => simp
  | cons f fs ih =>
    rw [List.foldl_cons, ih, resultsGet_collectStep]
    cases hf : fileEntries f cat path <;>
      by_cases hfs : fs.filterMap (fileEntries · cat path) = [] <;>
      simp [List.filterMap_cons, hf, hfs]

/-- `results[cat][path]` holds exactly the entries the files at `path` add. -/
theorem resultsGet_collectResults (files : List (List Char × Option (List Char)))
    (cat path : List Char) :
    resultsGet (collectResults files) cat path = expectedEntries files cat path := by
  rw [collectResults, resultsGet_foldl_collectStep, expectedEntries]
  simp [resultsGet]

/-! ### The report depends only on what the results hold -/

theorem dictGet_addEntries (results : Results) (cat path cat' : List Char)
    (es : List StringEntry) :
    dictGet (addEntries results cat path es) cat' =
      if cat' = cat then some (dictUpdate ((dictGet results cat).getD []) path [] (· ++ es))
      else dictGet results cat' := by
  simp [addEntries, dictGet_dictUpdate]

/-- The shape of `results` that the loop keeps: distinct categories, distinct paths
in each category, and no category without a file. -/
structure WellKeyed (results : Results) : Prop where
  cats_nodup : (results.map Prod.fst).Nodup
  paths_nodup : ∀ cat files, dictGet results cat = some files → (files.map Prod.fst).Nodup
  files_ne_nil : ∀ cat files, dictGet results cat = some files → files ≠ []

theorem WellKeyed.addEntries {results : Results} (hw : WellKeyed results) (cat path : List Char)
    (es : List StringEntry) : WellKeyed (addEntries results cat path es) where
  cats_nodup := nodup_keys_dictUpdate hw.cats_nodup _ _ _
  paths_nodup c files h := by
    rw [dictGet_addEntries] at h
    split at h
    · cases h
      cases hg : dictGet results cat with
      | none => simp [dictUpdate]
      | some fs => exact nodup_keys_dictUpdate (hw.paths_nodup _ _ hg) _ _ _
    · exact hw.paths_nodup _ _ h
  files_ne_nil c files h := by
    rw [dictGet_addEntries] at h
    split at h
    · cases h; exact dictUpdate_ne_nil _ _ _ _
    · exact hw.files_ne_nil _ _ h

theorem wellKeyed_collectResults (files : List (List Char × Option (List Char))) :
    WellKeyed (collectResults files) := by
  suffices ∀ r, WellKeyed r → WellKeyed (files.foldl collectStep r) from
    this [] ⟨List.nodup_nil, by simp, by simp⟩
  induction files with
  | nil => exact fun r h => h
  | cons f fs ih =>
    intro r h
    refine ih _ ?_
    unfold collectStep
    split
    · exact h
    · split
      · exact h
      · exact h.addEntries _ _ _

theorem WellKeyed.nodup_paths {results : Results} (hw : WellKeyed results) (cat : List Char) :
    (((dictGet results cat).getD []).map Prod.fst).Nodup := by
  cases hg : dictGet results cat with
  | none => exact List.nodup_nil
  | some files => exact hw.paths_nodup _ _ hg

theorem dictGet_getD_eq_resultsGet (results : Results) (cat path : List Char) :
    dictGet ((dictGet results cat).getD []) path = resultsGet results cat path := by
  unfold resultsGet; cases dictGet results cat <;> rfl

theorem mem_paths_iff (results : Results) (cat path : List Char) :
    path ∈ ((dictGet results cat).getD []).map Prod.fst ↔
      resultsGet results cat path ≠ none := by
  rw [← dictGet_getD_eq_resultsGet, Ne, dictGet_eq_none_iff, not_not]

theorem WellKeyed.mem_cats_iff {results : Results} (hw : WellKeyed results) (cat : List Char) :
    cat ∈ results.map Prod.fst ↔ ∃ path, resultsGet results cat path ≠ none := by
  rw [← not_iff_not, ← dictGet_eq_none_iff, not_exists]
  simp only [ne_eq, not_not]
  constructor
  · intro h path; simp [resultsGet, h]
  · intro h
    cases hg : dictGet results cat with
    | none => rfl
    | some files =>
      obtain ⟨⟨p, es⟩, rest, hrest⟩ := List.exists_cons_of_ne_nil (hw.files_ne_nil _ _ hg)
      have := (mem_paths_iff results cat p).mp (by simp [hg, hrest])
      exact absurd (h p) this

theorem generateMarkdown_congr {r r' : Results} (hw : WellKeyed r) (hw' : WellKeyed r')
    (h : ∀ cat path, resultsGet r cat path = resultsGet r' cat path) :
    generateMarkdown r = generateMarkdown r' := by
  have hcats : (r.map Prod.fst).Perm (r'.map Prod.fst) :=
    (List.perm_ext_iff_of_nodup hw.cats_nodup hw'.cats_nodup).mpr fun cat => by
      simp only [hw.mem_cats_iff, hw'.mem_cats_iff, h]
  have hpaths : ∀ cat, (((dictGet r cat).getD []).map Prod.fst).Perm
      (((dictGet r' cat).getD []).map Prod.fst) := fun cat =>
    (List.perm_ext_iff_of_nodup (hw.nodup_paths cat) (hw'.nodup_paths cat)).mpr fun p => by
      simp only [mem_paths_iff, h]
  have hsum : (r.map fun e => e.2.length).foldl (· + ·) 0 =
      (r'.map fun e => e.2.length).foldl (· + ·) 0 := by
    rw [← List.sum_eq_foldl, ← List.sum_eq_foldl, map_snd_eq_map_keys hw.cats_nodup _ [],
      map_snd_eq_map_keys hw'.cats_nodup _ []]
    refine (hcats.map _).sum_eq.trans (congrArg _ (List.map_congr_left fun cat _ => ?_))
    simpa using (hpaths cat).length_eq
  unfold generateMarkdown categorySection
  simp only [← List.length_map r Prod.fst, hcats.length_eq, hsum, sortStrings_eq_of_perm hcats,
    sortStrings_eq_of_perm (hpaths _), dictGet_getD_eq_resultsGet, h]
  rw [List.length_map]

/-! ### The header's counts -/

/-- The files of the walk that `main` records: not skipped, with at least one entry. -/
def keptFiles (files : List (List Char × Option (List Char))) :
    List (List Char × Option (List Char)) :=
  files.filter fun f => !isSkipped f.1 && scanFile f.2 != []

theorem resultsGet_collectResults_ne_none (files : List (List Char × Option (List Char)))
    (cat path : List Char) :
    resultsGet (collectResults files) cat path ≠ none ↔
      ∃ f ∈ keptFiles files, categorize f.1 = cat ∧ f.1 = path := by
  rw [resultsGet_collectResults, expectedEntries]
  simp [keptFiles, fileEntries, List.filterMap_eq_nil_iff]
  constructor
  · rintro ⟨_, x, hx, rfl, hs, hc, he⟩
    exact ⟨⟨x, hx, hs, he⟩, hc⟩
  · rintro ⟨⟨x, hx, hs, he⟩, hc⟩
    exact ⟨_, x, hx, rfl, hs, hc, he⟩

theorem mem_keyPairs_iff {results : Results} (hw : WellKeyed results) (cat path : List Char) :
    (cat, path) ∈ results.flatMap (fun e => e.2.map fun f => (e.1, f.1)) ↔
      resultsGet results cat path ≠ none := by
  rw [← mem_paths_iff]
  simp only [List.mem_flatMap, List.mem_map, Prod.mk.injEq]
  constructor
  · rintro ⟨⟨c, files⟩, he, f, hf, rfl, rfl⟩
    rw [dictGet_eq_some_of_mem hw.cats_nodup he]
    exact ⟨f, hf, rfl⟩
  · intro hp
    cases hg : dictGet results cat with
    | none => simp [hg] at hp
    | some files =>
      simp only [hg, Option.getD_some] at hp
      obtain ⟨f, hf, rfl⟩ := hp
      exact ⟨_, mem_of_dictGet_eq_some hg, f, hf, rfl, rfl⟩

theorem WellKeyed.nodup_keyPairs {results : Results} (hw : WellKeyed results) :
    (results.flatMap fun e => e.2.map fun f => (e.1, f.1)).Nodup := by
  refine List.nodup_flatMap.mpr ⟨fun e he => ?_, ?_⟩
  · refine List.Nodup.of_map Prod.snd ?_
    simpa [List.map_map, Function.comp_def] using
      hw.paths_nodup e.1 e.2 (dictGet_eq_some_of_mem hw.cats_nodup he)
  · refine (List.pairwise_map.mp hw.cats_nodup).imp fun {a b} hab => ?_
    simp only [Function.onFun, List.disjoint_left, List.mem_map]
    rintro _ ⟨f, -, rfl⟩ ⟨g, -, hg⟩
    exact hab (Prod.mk.inj hg).1.symm

/-- With distinct paths, the sum `total_files` of `generate_markdown` counts the files
the walk records. -/
theorem filesScanned_collectResults {files : List (List Char × Option (List Char))}
    (hd : (files.map Prod.fst).Nodup) :
    ((collectResults files).map fun r => r.2.length).foldl (· + ·) 0 =
      (keptFiles files).length := by
  have hw := wellKeyed_collectResults files
  have hkept : ((keptFiles files).map fun f => (categorize f.1, f.1)).Nodup := by
    refine List.Nodup.of_map Prod.snd ?_
    simpa [List.map_map, Function.comp_def] using hd.sublist ((List.filter_sublist _).map _)
  have hperm := (List.perm_ext_iff_of_nodup hw.nodup_keyPairs hkept).mpr fun ⟨c, p⟩ => by
    rw [mem_keyPairs_iff hw, resultsGet_collectResults_ne_none]
    simp [and_comm]
  rw [← List.sum_eq_foldl, ← List.length_map (keptFiles files), ← hperm.length_eq,
    List.length_flatMap]
  simp [Function.comp_def]

/-- `total_categories`: the categories of the files the walk records. -/
theorem categories_collectResults (files : List (List Char × Option (List Char))) :
    (collectResults files).length =
      ((keptFiles files).map fun f => categorize f.1).dedup.length := by
  have hw := wellKeyed_collectResults files
  rw [← List.length_map (collectResults files) Prod.fst]
  refine ((List.perm_ext_iff_of_nodup hw.cats_nodup (List.nodup_dedup _)).mpr fun c => ?_).length_eq
  simp only [hw.mem_cats_iff, resultsGet_collectResults_ne_none, List.mem_dedup, List.mem_map]
  constructor
  · rintro ⟨_, f, hf, hc, -⟩
    exact ⟨f, hf, hc⟩
  · rintro ⟨f, hf, hc⟩
    exact ⟨_, f, hf, hc, rfl⟩

/-- With distinct paths, the report opens with the number of categories of the files the
walk records and, as "Files scanned", the number of those files: a file that is
scanned but holds no user-facing string is not counted. -/
theorem extractionReport_header {files : List (List Char × Option (List Char))}
    (hd : (files.map Prod.fst).Nodup) :
    ("# User‑Facing Strings – Automated Extraction\n\n".toList ++
      "**Categories:** ".toList ++
        (toString ((keptFiles files).map fun f => categorize f.1).dedup.length).toList ++
      "  ".toList ++
      "**Files scanned:** ".toList ++ (toString (keptFiles files).length).toList ++
      "\n\n".toList) <+: extractionReport files := by
  rw [extractionReport, generateMarkdown, ← categories_collectResults,
    ← filesScanned_collectResults hd]
  simp only [List.flatten_append, List.flatten_cons, List.flatten_nil, List.append_nil,
    ← List.append_assoc]
  exact List.prefix_append _ _

theorem extractionReport_header_login :
    (([("src/auth/login.ts".toList, some "title: \"Sign in\"".toList),
        ("src/util.ts".toList, none)] : List (List Char × Option (List Char))).map
          Prod.fst).Nodup ∧
      ("# User‑Facing Strings – Automated Extraction\n\n".toList ++
        "**Categories:** ".toList ++
          (toString ((keptFiles [("src/auth/login.ts".toList, some "title: \"Sign in\"".toList),
            ("src/util.ts".toList, none)]).map fun f => categorize f.1).dedup.length).toList ++
        "  ".toList ++
        "**Files scanned:** ".toList ++
          (toString (keptFiles [("src/auth/login.ts".toList, some "title: \"Sign in\"".toList),
            ("src/util.ts".toList, none)]).length).toList ++
        "\n\n".toList) <+: extractionReport
        [("src/auth/login.ts".toList, some "title: \"Sign in\"".toList),
          ("src/util.ts".toList, none)] :=
  ⟨by decide, extractionReport_header (by decide)⟩

/-! ### The order of the walk -/

theorem length_filterMap_fileEntries_le {files : List (List Char × Option (List Char))}
    (hd : (files.map Prod.fst).Nodup) (cat path : List Char) :
    (files.filterMap (fileEntries · cat path)).length ≤ 1 := by
  induction files with
  | nil => simp
  | cons f fs ih =>
    simp only [List.map_cons, List.nodup_cons] at hd
    cases hf : fileEntries f cat path with
    | none => simpa [List.filterMap_cons, hf] using ih hd.2
    | some es =>
      have hfp : f.1 = path := by unfold fileEntries at hf; split at hf <;> simp_all
      have hnil : fs.filterMap (fileEntries · cat path) = [] :=
        List.filterMap_eq_nil_iff.mpr fun g hg => by
          have : g.1 ≠ path := fun e => hd.1 (hfp ▸ e ▸ List.mem_map_of_mem _ hg)
          simp [fileEntries, this]
      simp [List.filterMap_cons, hf, hnil]

theorem expectedEntries_perm {files files' : List (List Char × Option (List Char))}
    (h : files.Perm files') (hd : (files.map Prod.fst).Nodup) (cat path : List Char) :
    expectedEntries files cat path = expectedEntries files' cat path := by
  have hp := h.filterMap (fileEntries · cat path)
  have heq : files.filterMap (fileEntries · cat path) =
      files'.filterMap (fileEntries · cat path) := by
    match hl : files.filterMap (fileEntries · cat path),
      length_filterMap_fileEntries_le hd cat path with
    | [], _ => exact (List.Perm.nil_eq (hl ▸ hp))
    | [es], _ => exact (List.perm_singleton.mp (hl ▸ hp).symm).symm
  rw [expectedEntries, expectedEntries, heq]

/-- The report does not depend on the order in which the walk yields the files. -/
theorem extractionReport_perm {files files' : List (List Char × Option (List Char))}
    (h : files.Perm files') (hd : (files.map Prod.fst).Nodup) :
    extractionReport files = extractionReport files' :=
  generateMarkdown_congr (wellKeyed_collectResults _) (wellKeyed_collectResults _)
    fun cat path => by
      rw [resultsGet_collectResults, resultsGet_collectResults, expectedEntries_perm h hd]

unseal Pattern.findall in
theorem extractionReport_perm_two :
    [("src/login.ts".toList, some "title: \"Sign in\"\n".toList),
        ("src/chat.ts".toList, some "label: \"Send message\"\n".toList)].Perm
      [("src/chat.ts".toList, some "label: \"Send message\"\n".toList),
        ("src/login.ts".toList, some "title: \"Sign in\"\n".toList)] ∧
    (["src/login.ts".toList, "src/chat.ts".toList] : List (List Char)).Nodup ∧
    (keptFiles [("src/login.ts".toList, some "title: \"Sign in\"\n".toList),
        ("src/chat.ts".toList, some "label: \"Send message\"\n".toList)]).length = 2 ∧
    extractionReport [("src/login.ts".toList, some "title: \"Sign in\"\n".toList),
        ("src/chat.ts".toList, some "label: \"Send message\"\n".toList)] =
      extractionReport [("src/chat.ts".toList, some "label: \"Send message\"\n".toList),
        ("src/login.ts".toList, some "title: \"Sign in\"\n".toList)] :=
  have h : [("src/login.ts".toList, some "title: \"Sign in\"\n".toList),
        ("src/chat.ts".toList, some "label: \"Send message\"\n".toList)].Perm
      [("src/chat.ts".toList, some "label: \"Send message\"\n".toList),
        ("src/login.ts".toList, some "title: \"Sign in\"\n".toList)] := by decide
  have hd : (["src/login.ts".toList, "src/chat.ts".toList] : List (List Char)).Nodup := by decide
  ⟨h, hd, by decide, extractionReport_perm h hd⟩

end VibeZScripts.Extract
