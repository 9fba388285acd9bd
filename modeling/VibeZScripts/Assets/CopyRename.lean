import Mathlib.Data.List.Dedup
import VibeZScripts.Assets.Setup

/-! # `copy_and_rename.py`

The copy script that `setup_assets.py` replaced. It copies the three scales of six
images, the two larger ones from their `%40` spelling, and the marketing icon into
imagesets it expects to exist, and then counts the PNG files the six imagesets list.
It creates no directory: `shutil.copy` into a missing imageset raises
`FileNotFoundError`, and so does `os.listdir` of one, and the script stops there with
the files copied so far. The tree it runs on is its files and its directories, by path
components under `dst_base`. Its `dst_base` is the `ASSETS_BASE` of the author's
checkout and its `src` the default `SOURCE_DIR`, so the two scripts read and write the
same trees.
-/
namespace VibeZScripts.Assets
open Python

abbrev AssetDirs := List (List (List Char))

def mappings : List (List Char × List Char) :=
  [("WelcomeHero".toList, "Hero".toList), ("TierCardStarter".toList, "Tiers".toList),
    ("TierCardPro".toList, "Tiers".toList), ("TierCardEnterprise".toList, "Tiers".toList),
    ("PaywallHero".toList, "Paywall".toList), ("VoicePresenceWaveform".toList, "Voice".toList)]

/-- `shutil.copy` to the path of a write: `FileNotFoundError`, with the files as they
were, when the directory it writes into does not exist. -/
def writeFile (dirs : AssetDirs) (assets : AssetFiles) (w : List (List Char) × AssetFile) :
    Except AssetFiles AssetFiles :=
  if w.1.dropLast ∈ dirs then .ok (dictSet assets w.1 w.2) else .error assets

/-- `if os.path.exists(src_file): shutil.copy(src_file, dst_file)`. -/
def copyIfExists (source : Source) (dirs : AssetDirs) (srcFile : List Char)
    (dstFile : List (List Char)) (assets : AssetFiles) : Except AssetFiles AssetFiles :=
  match dictGet source srcFile with
  | some bytes => writeFile dirs assets (dstFile, .png bytes)
  | none => .ok assets

/-- One pass of the loop over `mappings`: `@1x` under its own name, `@2x` and `@3x`
renamed from `%402x` and `%403x`. -/
def copyScales (source : Source) (dirs : AssetDirs) (assets : AssetFiles)
    (m : List Char × List Char) : Except AssetFiles AssetFiles := do
  let imageset := imagesetDir m.1 m.2
  let assets ← copyIfExists source dirs (m.1 ++ ".png".toList)
    (imageset ++ [m.1 ++ ".png".toList]) assets
  let assets ← copyIfExists source dirs (m.1 ++ "%402x.png".toList)
    (imageset ++ [m.1 ++ "@2x.png".toList]) assets
  copyIfExists source dirs (m.1 ++ "%403x.png".toList) (imageset ++ [m.1 ++ "@3x.png".toList])
    assets

def entries (dirs : AssetDirs) (assets : AssetFiles) (path : List (List Char)) :
    List (List Char) :=
  ((assets.map Prod.fst ++ dirs).filterMap fun p =>
    if path <+: p then (p.drop path.length).head? else none).dedup

/-- `os.listdir(path)`: `FileNotFoundError` when the directory does not exist. -/
def listdir (dirs : AssetDirs) (assets : AssetFiles) (path : List (List Char)) :
    Option (List (List Char)) :=
  if path ∈ dirs then some (entries dirs assets path) else none

/-- `png_count`: the PNG files the six imagesets list, plus one for `AppIconMarketing`. -/
def pngCount (dirs : AssetDirs) (assets : AssetFiles) : Option ℕ := do
  let counts ← mappings.mapM fun m => (listdir dirs assets (imagesetDir m.1 m.2)).map
    fun names => (names.filter fun f => ".png".toList.isSuffixOf f).length
  pure (counts.foldl (· + ·) 0 + 1)

def copyRun (source : Source) (dirs : AssetDirs) (assets : AssetFiles) :
    Except AssetFiles AssetFiles := do
  let copied ← mappings.foldlM (copyScales source dirs) assets
  copyIfExists source dirs "AppIconMarketing.png".toList
    ["Marketing".toList, "AppIconMarketing.imageset".toList, "AppIconMarketing.png".toList] copied

/-- The script: the files it leaves, and `png_count` when it gets to print it. -/
def copyAndRename (source : Source) (dirs : AssetDirs) (assets : AssetFiles) :
    AssetFiles × Option ℕ :=
  match copyRun source dirs assets with
  | .ok copied => (copied, pngCount dirs copied)
  | .error copied => (copied, none)

theorem mem_entries {dirs : AssetDirs} {assets : AssetFiles} {path : List (List Char)}
    {f : List Char} :
    f ∈ entries dirs assets path ↔ ∃ rest, path ++ f :: rest ∈ assets.map Prod.fst ++ dirs := by
  simp only [entries, List.mem_dedup, List.mem_filterMap]
  constructor
  · rintro ⟨p, hp, hf⟩
    split at hf
    · obtain ⟨t, ht⟩ := ‹path <+: p›
      rw [← ht, List.drop_left] at hf
      cases t with
      | nil => cases hf
      | cons x t => exact ⟨t, by rw [← Option.some.inj hf, ht]; exact hp⟩
    · cases hf
  · rintro ⟨rest, hk⟩
    exact ⟨_, hk, by simp⟩

theorem nodup_entries (dirs : AssetDirs) (assets : AssetFiles) (path : List (List Char)) :
    (entries dirs assets path).Nodup :=
  List.nodup_dedup _

/-! ### The writes of a run -/

/-- Writes made in order, each into a directory that must exist: the run stops before
the first write whose directory is missing. -/
theorem foldlM_writeFile (dirs : AssetDirs) (ws assets : AssetFiles) :
    ws.foldlM (writeFile dirs) assets =
      if ∀ w ∈ ws, w.1.dropLast ∈ dirs then .ok (dictSetAll assets ws)
      else .error (dictSetAll assets (ws.takeWhile fun w => w.1.dropLast ∈ dirs)) := by
  induction ws generalizing assets with
  | nil => rfl
  | cons w ws ih =>
    by_cases hw : w.1.dropLast ∈ dirs
    · have ht : (w :: ws).takeWhile (fun w => w.1.dropLast ∈ dirs) =
          w :: ws.takeWhile fun w => w.1.dropLast ∈ dirs :=
        List.takeWhile_cons_of_pos (decide_eq_true hw)
      rw [List.foldlM_cons, writeFile, if_pos hw, ht]
      simp only [List.forall_mem_cons, hw, true_and]
      exact ih _
    · have ht : (w :: ws).takeWhile (fun w => w.1.dropLast ∈ dirs) = [] :=
        List.takeWhile_cons_of_neg fun h => hw (of_decide_eq_true h)
      rw [List.foldlM_cons, writeFile, if_neg hw, if_neg fun h => hw (h w (List.mem_cons_self _ _)),
        ht]
      rfl

def pngWrites (find : List Char → Option (List UInt8)) (name folder : List Char) : AssetFiles :=
  (scalesFor name).filterMap fun scale =>
    (find scale).map fun bytes => (imagesetDir name folder ++ [pngName name scale], .png bytes)

/-- What the script copies, in order: every scale of `IMAGE_MAPPING`, read from its
`%40` spelling. -/
def copyWrites (source : Source) : AssetFiles :=
  imageMapping.flatMap fun m =>
    pngWrites (fun scale => dictGet source (encodedName m.1 scale)) m.1 m.2

def contentsPaths : List (List (List Char)) :=
  imageMapping.map fun m => contentsPath m.1 m.2

theorem imageMapping_eq : imageMapping = mappings ++ [(marketing, "Marketing".toList)] := rfl

theorem imagesetWrites_eq (source : Source) (name folder : List Char) :
    imagesetWrites source name folder =
      pngWrites (sourceFor source name) name folder ++
        [(contentsPath name folder, .contents (contentsFor name))] := rfl

theorem mem_pngWrites {find : List Char → Option (List UInt8)} {name folder : List Char}
    {w : List (List Char) × AssetFile} :
    w ∈ pngWrites find name folder ↔ ∃ scale ∈ scalesFor name, ∃ bytes,
      find scale = some bytes ∧
        w = (imagesetDir name folder ++ [pngName name scale], .png bytes) := by
  simp only [pngWrites, List.mem_filterMap, Option.map_eq_some']
  constructor <;> rintro ⟨scale, hs, bytes, hb, rfl⟩ <;> exact ⟨scale, hs, bytes, hb, rfl⟩

theorem mem_copyWrites {source : Source} {w : List (List Char) × AssetFile} :
    w ∈ copyWrites source ↔ ∃ m ∈ imageMapping, ∃ scale ∈ scalesFor m.1, ∃ bytes,
      dictGet source (encodedName m.1 scale) = some bytes ∧
        w = (imagesetDir m.1 m.2 ++ [pngName m.1 scale], .png bytes) := by
  simp only [copyWrites, List.mem_flatMap, mem_pngWrites]

theorem copyIfExists_eq (source : Source) (dirs : AssetDirs) (srcFile : List Char)
    (dstFile : List (List Char)) (assets : AssetFiles) :
    copyIfExists source dirs srcFile dstFile assets =
      ((dictGet source srcFile).map fun bytes => (dstFile, .png bytes)).toList.foldlM
        (writeFile dirs) assets := by
  unfold copyIfExists
  cases dictGet source srcFile
  · rfl
  · simp

theorem encodedName_append (name scale : List Char) :
    encodedName name scale = name ++ (encodeAt scale ++ ".png".toList) :=
  List.append_assoc _ _ _

theorem pngName_append (name scale : List Char) :
    pngName name scale = name ++ (scale ++ ".png".toList) :=
  List.append_assoc _ _ _

theorem copyScales_eq (source : Source) (dirs : AssetDirs) (assets : AssetFiles)
    {m : List Char × List Char} (hm : m ∈ mappings) :
    copyScales source dirs assets m =
      (pngWrites (fun scale => dictGet source (encodedName m.1 scale)) m.1 m.2).foldlM
        (writeFile dirs) assets := by
  have hs : scalesFor m.1 = scales :=
    scalesFor_of_ne ((by decide : ∀ m ∈ mappings, m.1 ≠ marketing) m hm)
  simp only [copyScales, copyIfExists_eq, ← List.foldlM_append, pngWrites, hs, scales,
    List.filterMap_eq_flatMap_toList, List.flatMap_cons, List.flatMap_nil, List.append_nil,
    List.append_assoc, encodedName_append, pngName_append]
  rfl

theorem foldlM_copyScales (source : Source) (dirs : AssetDirs)
    {ms : List (List Char × List Char)} (hms : ∀ m ∈ ms, m ∈ mappings) (assets : AssetFiles) :
    ms.foldlM (copyScales source dirs) assets = (ms.flatMap fun m =>
      pngWrites (fun scale => dictGet source (encodedName m.1 scale)) m.1 m.2).foldlM
        (writeFile dirs) assets := by
  induction ms generalizing assets with
  | nil => rfl
  | cons m ms ih =>
    simp only [List.foldlM_cons, copyScales_eq source dirs _ (hms m (List.mem_cons_self _ _)),
      ih (fun m' h => hms m' (List.mem_cons_of_mem _ h)), List.flatMap_cons, List.foldlM_append]

theorem pngWrites_marketing (find : List Char → Option (List UInt8)) :
    pngWrites find marketing "Marketing".toList =
      ((find "".toList).map fun bytes => (["Marketing".toList, "AppIconMarketing.imageset".toList,
        "AppIconMarketing.png".toList], AssetFile.png bytes)).toList := by
  simp only [pngWrites, show scalesFor marketing = ["".toList] by decide, List.filterMap_cons,
    List.filterMap_nil]
  cases find "".toList <;> rfl

theorem copyRun_eq (source : Source) (dirs : AssetDirs) (assets : AssetFiles) :
    copyRun source dirs assets = (copyWrites source).foldlM (writeFile dirs) assets := by
  rw [copyRun, foldlM_copyScales source dirs (fun _ => id), copyWrites, imageMapping_eq,
    List.flatMap_append, List.foldlM_append, List.flatMap_singleton, pngWrites_marketing]
  simp only [copyIfExists_eq]
  rfl

/-- The script makes the writes of `copyWrites` up to the first one whose imageset is
missing, and prints `png_count` only when it makes them all. -/
theorem copyAndRename_eq (source : Source) (dirs : AssetDirs) (assets : AssetFiles) :
    copyAndRename source dirs assets =
      (dictSetAll assets ((copyWrites source).takeWhile fun w => w.1.dropLast ∈ dirs),
        if ∀ w ∈ copyWrites source, w.1.dropLast ∈ dirs then
          pngCount dirs (dictSetAll assets (copyWrites source))
        else none) := by
  rw [copyAndRename, copyRun_eq, foldlM_writeFile]
  split_ifs with h
  · rw [List.takeWhile_eq_self_iff.mpr fun w hw => decide_eq_true (h w hw)]
  · rfl

/-- The imageset directories of `IMAGE_MAPPING`, which `setup_assets.py` creates. -/
def imagesetDirs : AssetDirs :=
  imageMapping.map fun m => imagesetDir m.1 m.2

theorem dropLast_of_mem_copyWrites {source : Source} {w : List (List Char) × AssetFile}
    (hw : w ∈ copyWrites source) : w.1.dropLast ∈ imagesetDirs := by
  obtain ⟨m, hm, sc, -, b, -, rfl⟩ := mem_copyWrites.mp hw
  rw [List.dropLast_concat]
  exact List.mem_map_of_mem _ hm

/-- With the imagesets in place, the script makes every write of `copyWrites`. -/
theorem copyAndRename_of_imagesets (source : Source) {dirs : AssetDirs}
    (hdirs : imagesetDirs ⊆ dirs) (assets : AssetFiles) :
    copyAndRename source dirs assets =
      (dictSetAll assets (copyWrites source), pngCount dirs (dictSetAll assets (copyWrites source))) := by
  have h : ∀ w ∈ copyWrites source, w.1.dropLast ∈ dirs := fun w hw =>
    hdirs (dropLast_of_mem_copyWrites hw)
  rw [copyAndRename_eq, if_pos h, List.takeWhile_eq_self_iff.mpr fun w hw => decide_eq_true (h w hw)]

theorem mem_imageMapping_of_mem_mappings {m : List Char × List Char} (hm : m ∈ mappings) :
    m ∈ imageMapping := by
  rw [imageMapping_eq]
  exact List.mem_append_left _ hm

theorem pngCount_of_imagesets {dirs : AssetDirs} (hdirs : imagesetDirs ⊆ dirs)
    (assets : AssetFiles) :
    pngCount dirs assets = some ((mappings.map fun m => ((entries dirs assets
      (imagesetDir m.1 m.2)).filter fun f => ".png".toList.isSuffixOf f).length).foldl (· + ·) 0 + 1) := by
  have h : ∀ m ∈ mappings, (listdir dirs assets (imagesetDir m.1 m.2)).map
      (fun names => (names.filter fun f => ".png".toList.isSuffixOf f).length) =
      some (((entries dirs assets (imagesetDir m.1 m.2)).filter
        fun f => ".png".toList.isSuffixOf f).length) := fun m hm => by
    rw [listdir, if_pos (hdirs (List.mem_map_of_mem _ (mem_imageMapping_of_mem_mappings hm)))]
    rfl
  rw [pngCount, @mapM_eq_some _ _ (fun m => (listdir dirs assets (imagesetDir m.1 m.2)).map
      fun names => (names.filter fun f => ".png".toList.isSuffixOf f).length)
    (fun m => ((entries dirs assets (imagesetDir m.1 m.2)).filter
      fun f => ".png".toList.isSuffixOf f).length) mappings h]
  rfl

/-- A copy into a missing imageset stops the script before `png_count` is printed. -/
theorem copyAndRename_missing_imageset {source : Source} {dirs : AssetDirs}
    (h : ∃ w ∈ copyWrites source, w.1.dropLast ∉ dirs) (assets : AssetFiles) :
    (copyAndRename source dirs assets).2 = none := by
  obtain ⟨w, hw, hd⟩ := h
  rw [copyAndRename_eq, if_neg fun hall => hd (hall w hw)]

/-! ### The two scripts on one source -/

theorem sourceFor_eq_encoded {source : Source} (hs : ∀ e ∈ source, '@' ∉ e.1)
    (name : List Char) {scale : List Char} (h : scale ∈ scales) :
    sourceFor source name scale = dictGet source (encodedName name scale) := by
  unfold sourceFor
  cases hp : dictGet source (pngName name scale) with
  | none => rfl
  | some bytes =>
    have hat : '@' ∉ scale := fun h' =>
      hs _ (mem_of_dictGet_eq_some hp) (List.mem_append_left _ (List.mem_append_right _ h'))
    simp only [scales, List.mem_cons, List.mem_singleton, List.not_mem_nil, or_false] at h
    rcases h with rfl | rfl | rfl
    · exact hp.symm
    all_goals exact absurd (by decide) hat

theorem pngWrites_sourceFor {source : Source} (hs : ∀ e ∈ source, '@' ∉ e.1)
    (name folder : List Char) :
    pngWrites (sourceFor source name) name folder =
      pngWrites (fun scale => dictGet source (encodedName name scale)) name folder :=
  List.filterMap_congr fun _ h => by
    rw [sourceFor_eq_encoded hs name (List.mem_of_mem_filter h)]

theorem mainWrites_filter (source : Source) :
    (mainWrites source).filter (fun w => w.1 ∉ contentsPaths) =
      imageMapping.flatMap fun m => pngWrites (sourceFor source m.1) m.1 m.2 := by
  rw [mainWrites, List.filter_flatMap]
  refine List.flatMap_congr fun m hm => ?_
  rw [imagesetWrites_eq, List.filter_append, List.filter_eq_self.mpr, List.filter_eq_nil_iff.mpr,
    List.append_nil]
  · intro w hw
    simp only [List.mem_singleton.mp hw, decide_eq_true_eq, not_not]
    exact List.mem_map_of_mem (fun m : List Char × List Char => contentsPath m.1 m.2) hm
  · intro w hw
    obtain ⟨scale, -, bytes, -, rfl⟩ := mem_pngWrites.mp hw
    simp only [contentsPaths, decide_eq_true_eq, List.mem_map, not_exists, not_and]
    exact fun m' _ h => png_path_ne_contents _ _ _ m'.1 m'.2 h.symm

/-- On a source whose names spell `@` as `%40` (the `pixxx` folder, whose larger scales
this script renames from `%402x` and `%403x`), and a tree that has the imageset
directories, `copy_and_rename.py` runs to its end and the two scripts leave the same
file at every path but the `Contents.json` files that only `setup_assets.py` writes. -/
theorem copyAndRename_agrees_setupAssets (source : Source) (dirs : AssetDirs)
    (assets : AssetFiles) (hs : ∀ e ∈ source, '@' ∉ e.1) (hdirs : imagesetDirs ⊆ dirs) :
    ∃ out n, setupAssets (some source) assets = some (out, n) ∧
      (copyAndRename source dirs assets).2 ≠ none ∧
      ∀ path ∉ contentsPaths,
        dictGet out path = dictGet (copyAndRename source dirs assets).1 path := by
  refine ⟨_, _, setupAssets_eq source assets, ?_, fun path hp => ?_⟩
  · rw [copyAndRename_of_imagesets source hdirs, pngCount_of_imagesets hdirs]
    exact Option.some_ne_none _
  · have hf : dictGet ((mainWrites source).reverse.filter fun w => w.1 ∉ contentsPaths) path =
        dictGet (mainWrites source).reverse path :=
      dictGet_filter _ fun e _ he => by simpa [he] using hp
    have hw : (imageMapping.flatMap fun m => pngWrites (sourceFor source m.1) m.1 m.2) =
        copyWrites source :=
      List.flatMap_congr fun m _ => pngWrites_sourceFor hs m.1 m.2
    rw [copyAndRename_of_imagesets source hdirs, dictGet_dictSetAll, dictGet_dictSetAll, ← hf,
      List.filter_reverse, mainWrites_filter, hw]

theorem copyAndRename_agrees_setupAssets_pixxx :
    (∀ e ∈ ([("WelcomeHero%402x.png".toList, [2]),
        ("AppIconMarketing.png".toList, [7])] : Source), '@' ∉ e.1) ∧
      imagesetDirs ⊆ imagesetDirs ∧
      ∃ out n, setupAssets (some [("WelcomeHero%402x.png".toList, [2]),
          ("AppIconMarketing.png".toList, [7])]) [] = some (out, n) ∧
        (copyAndRename [("WelcomeHero%402x.png".toList, [2]),
          ("AppIconMarketing.png".toList, [7])] imagesetDirs []).2 ≠ none ∧
        ∀ path ∉ contentsPaths, dictGet out path = dictGet (copyAndRename
          [("WelcomeHero%402x.png".toList, [2]), ("AppIconMarketing.png".toList, [7])]
          imagesetDirs []).1 path :=
  ⟨by decide, List.Subset.refl _,
    copyAndRename_agrees_setupAssets _ _ _ (by decide) (List.Subset.refl _)⟩

/-- Neither script changes a file outside the imagesets of `IMAGE_MAPPING`, whichever
directories the tree has. -/
theorem scripts_stay_in_imagesets (source : Source) (dirs : AssetDirs) (assets : AssetFiles) :
    ∃ out n, setupAssets (some source) assets = some (out, n) ∧
      ∀ path, (∀ m ∈ imageMapping, ¬ imagesetDir m.1 m.2 <+: path) →
        dictGet out path = dictGet assets path ∧
          dictGet (copyAndRename source dirs assets).1 path = dictGet assets path := by
  refine ⟨_, _, setupAssets_eq source assets, fun path hp => ⟨?_, ?_⟩⟩
  · refine dictGet_dictSetAll_of_not_mem fun hk => ?_
    obtain ⟨w, hw, rfl⟩ := List.mem_map.mp hk
    obtain ⟨m, hm, ⟨sc, -, b, -, rfl⟩ | rfl⟩ := mem_mainWrites.mp hw
    all_goals exact hp m hm (List.prefix_append _ _)
  · rw [copyAndRename_eq]
    refine dictGet_dictSetAll_of_not_mem fun hk => ?_
    obtain ⟨w, hw, rfl⟩ := List.mem_map.mp hk
    obtain ⟨m, hm, sc, -, b, -, rfl⟩ := mem_copyWrites.mp ((List.takeWhile_sublist _).subset hw)
    exact hp m hm (List.prefix_append _ _)

/-! ### `png_count` -/

theorem png_entries_copyWrites {source : Source} {dirs : AssetDirs} {assets : AssetFiles}
    {name folder : List Char} (hm : (name, folder) ∈ imageMapping)
    (hd : ∀ f ∈ entries dirs assets (imagesetDir name folder), ¬ ".png".toList <:+ f) :
    ((entries dirs (dictSetAll assets (copyWrites source)) (imagesetDir name folder)).filter
        fun f => ".png".toList.isSuffixOf f).length =
      ((scalesFor name).filterMap fun scale => dictGet source (encodedName name scale)).length := by
  have hperm : List.Perm ((entries dirs (dictSetAll assets (copyWrites source))
      (imagesetDir name folder)).filter fun f => ".png".toList.isSuffixOf f)
      ((scalesFor name).filterMap fun scale =>
        (dictGet source (encodedName name scale)).map fun _ => pngName name scale) := by
    refine (List.perm_ext_iff_of_nodup ((nodup_entries _ _ _).filter _) ?_).mpr fun f => ?_
    · refine List.Nodup.filterMap (fun a a' b hb hb' => ?_) ((by decide : scales.Nodup).filter _)
      simp only [Option.mem_def, Option.map_eq_some'] at hb hb'
      obtain ⟨_, -, rfl⟩ := hb
      obtain ⟨_, -, h⟩ := hb'
      exact (pngName_inj h).symm
    simp only [List.mem_filter, mem_entries, List.mem_append, mem_keys_dictSetAll_iff,
      List.isSuffixOf_iff_suffix, List.mem_filterMap, Option.map_eq_some']
    constructor
    · rintro ⟨⟨rest, (hk | hk) | hk⟩, hpng⟩
      · exact absurd hpng (hd f (mem_entries.mpr ⟨rest, List.mem_append_left _ hk⟩))
      · obtain ⟨w, hw, hk⟩ := List.mem_map.mp hk
        obtain ⟨m, -, scale, hsc, bytes, hb, rfl⟩ := mem_copyWrites.mp hw
        obtain ⟨hd', hf⟩ := List.append_inj hk rfl
        obtain ⟨rfl, -⟩ := imagesetDir_inj hd'
        exact ⟨scale, hsc, bytes, hb, (List.cons.inj hf.symm).1.symm⟩
      · exact absurd hpng (hd f (mem_entries.mpr ⟨rest, List.mem_append_right _ hk⟩))
    · rintro ⟨scale, hsc, bytes, hb, rfl⟩
      have hw := mem_copyWrites.mpr ⟨_, hm, scale, hsc, bytes, hb, rfl⟩
      exact ⟨⟨[], .inl (.inr (List.mem_map.mpr ⟨_, hw, rfl⟩))⟩, List.suffix_append _ _⟩
  rw [hperm.length_eq, List.length_filterMap_eq_countP, List.length_filterMap_eq_countP]
  exact List.countP_congr fun _ _ => by simp

/-- `png_count` after the copy, with the imagesets in place and listing no PNG file
before: the scales of the six images found in their `%40` spelling, plus one. -/
theorem pngCount_copyAndRename (source : Source) {dirs : AssetDirs} (hdirs : imagesetDirs ⊆ dirs)
    (assets : AssetFiles)
    (hd : ∀ m ∈ mappings, ∀ f ∈ entries dirs assets (imagesetDir m.1 m.2),
      ¬ ".png".toList <:+ f) :
    (copyAndRename source dirs assets).2 =
      some ((mappings.map fun m => ((scalesFor m.1).filterMap fun scale =>
        dictGet source (encodedName m.1 scale)).length).foldl (· + ·) 0 + 1) := by
  rw [copyAndRename_of_imagesets source hdirs, pngCount_of_imagesets hdirs,
    List.map_congr_left fun m hm =>
      png_entries_copyWrites (mem_imageMapping_of_mem_mappings hm) (hd m hm)]

theorem length_filterMap_marketing (find : List Char → Option (List UInt8)) :
    ((scalesFor marketing).filterMap find).length = if find "".toList = none then 0 else 1 := by
  simp only [show scalesFor marketing = ["".toList] by decide, List.filterMap_cons,
    List.filterMap_nil]
  cases find "".toList <;> rfl

/-- On a source whose names spell `@` as `%40`, with the imagesets in place and the six
of the three-scale images listing no PNG file, `png_count` is the `total_files` that
`setup_assets.py` reports, plus one when `AppIconMarketing.png` is missing: the
marketing icon is counted whether or not it was copied. -/
theorem copyAndRename_pngCount (source : Source) (dirs : AssetDirs) (assets : AssetFiles)
    (hs : ∀ e ∈ source, '@' ∉ e.1) (hdirs : imagesetDirs ⊆ dirs)
    (hd : ∀ m ∈ mappings, ∀ f ∈ entries dirs assets (imagesetDir m.1 m.2),
      ¬ ".png".toList <:+ f) :
    ∃ out n, setupAssets (some source) assets = some (out, n) ∧
      (copyAndRename source dirs assets).2 =
        some (n + if dictGet source "AppIconMarketing.png".toList = none then 1 else 0) := by
  refine ⟨_, _, setupAssets_eq source assets, ?_⟩
  have hc : ∀ m : List Char × List Char, (scalesFor m.1).filterMap (sourceFor source m.1) =
      (scalesFor m.1).filterMap fun scale => dictGet source (encodedName m.1 scale) := fun m =>
    List.filterMap_congr fun _ h => sourceFor_eq_encoded hs m.1 (List.mem_of_mem_filter h)
  have hk := length_filterMap_marketing fun scale => dictGet source (encodedName marketing scale)
  rw [pngCount_copyAndRename source hdirs assets hd, copiedTotal, imageMapping_eq,
    List.foldl_append, List.foldl_map]
  simp only [hc, List.foldl_cons, List.foldl_nil, hk]
  rw [show encodedName marketing "".toList = "AppIconMarketing.png".toList from rfl]
  congr 1
  split_ifs <;> omega

theorem copyAndRename_pngCount_empty :
    (∀ e ∈ ([("WelcomeHero%402x.png".toList, [2])] : Source), '@' ∉ e.1) ∧
      imagesetDirs ⊆ imagesetDirs ∧
      (∀ m ∈ mappings, ∀ f ∈ entries imagesetDirs [] (imagesetDir m.1 m.2),
        ¬ ".png".toList <:+ f) ∧
      ∃ out n, setupAssets (some [("WelcomeHero%402x.png".toList, [2])]) [] = some (out, n) ∧
        (copyAndRename [("WelcomeHero%402x.png".toList, [2])] imagesetDirs []).2 =
          some (n + if dictGet ([("WelcomeHero%402x.png".toList, [2])] : Source)
            "AppIconMarketing.png".toList = none then 1 else 0) :=
  ⟨by decide, List.Subset.refl _, by decide,
    copyAndRename_pngCount _ _ _ (by decide) (List.Subset.refl _) (by decide)⟩

end VibeZScripts.Assets
