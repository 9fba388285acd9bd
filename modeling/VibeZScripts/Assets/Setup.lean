import VibeZScripts.Python.Dict

/-! # `setup_assets.py`

`create_imageset` copies the one, two and three times scaled PNGs of an image from
the source directory into the image's imageset, taking the file whose `@` is
spelled `%40` when the plain name is missing, and writes the imageset's
`Contents.json`; `main` does this for every image of `IMAGE_MAPPING`. Files are
kept by their path under `ASSETS_BASE`, and `Contents.json` by the value
`json.dump` writes.
-/
namespace VibeZScripts.Assets
open Python

/-- An entry of the `images` list of `Contents.json`. -/
structure ImageRecord where
  filename : List Char
  idiom : List Char
  scale : List Char
  deriving DecidableEq, Repr, Inhabited

/-- `Contents.json`: the images and the `info` object. -/
structure Contents where
  images : List ImageRecord
  author : List Char
  version : ℕ
  deriving DecidableEq, Repr, Inhabited

/-- A file the script writes: a copied image or an imageset's `Contents.json`. -/
inductive AssetFile
  | png (bytes : List UInt8)
  | contents (c : Contents)
  deriving DecidableEq, Repr, Inhabited

/-- The files of `SOURCE_DIR` by name. -/
abbrev Source := List (List Char × List UInt8)

/-- The files under `ASSETS_BASE` by their path components. -/
abbrev AssetFiles := List (List (List Char) × AssetFile)

def imageMapping : List (List Char × List Char) :=
  [("WelcomeHero".toList, "Hero".toList), ("TierCardStarter".toList, "Tiers".toList),
    ("TierCardPro".toList, "Tiers".toList), ("TierCardEnterprise".toList, "Tiers".toList),
    ("PaywallHero".toList, "Paywall".toList), ("VoicePresenceWaveform".toList, "Voice".toList),
    ("AppIconMarketing".toList, "Marketing".toList)]

def marketing : List Char := "AppIconMarketing".toList

def scales : List (List Char) := ["".toList, "@2x".toList, "@3x".toList]

/-- The scales the copy loop does not skip: the marketing icon has only the first. -/
def scalesFor (name : List Char) : List (List Char) :=
  scales.filter fun scale => !(name == marketing && !scale.isEmpty)

theorem scalesFor_of_ne {name : List Char} (h : name ≠ marketing) : scalesFor name = scales := by
  simp [scalesFor, h, scales]

/-- `scale.replace('@', '%40')`. -/
def encodeAt (scale : List Char) : List Char :=
  scale.flatMap fun c => if c = '@' then "%40".toList else [c]

def pngName (name scale : List Char) : List Char := name ++ scale ++ ".png".toList

def encodedName (name scale : List Char) : List Char := name ++ encodeAt scale ++ ".png".toList

def imagesetDir (name folder : List Char) : List (List Char) := [folder, name ++ ".imageset".toList]

def contentsPath (name folder : List Char) : List (List Char) :=
  imagesetDir name folder ++ ["Contents.json".toList]

/-- One scale of the copy loop: `shutil.copy` from the plain name, else from the
`%40` spelling, and what it appends to `copied_files`. -/
def copyScale (source : Source) (dir : List (List Char)) (name : List Char)
    (acc : AssetFiles × List (List Char)) (scale : List Char) : AssetFiles × List (List Char) :=
  match dictGet source (pngName name scale) with
  | some bytes =>
    (dictSet acc.1 (dir ++ [pngName name scale]) (.png bytes), acc.2 ++ [pngName name scale])
  | none =>
    match dictGet source (encodedName name scale) with
    | some bytes =>
      (dictSet acc.1 (dir ++ [pngName name scale]) (.png bytes),
        acc.2 ++ [encodedName name scale ++ " -> ".toList ++ pngName name scale])
    | none => acc

def imageRecord (filename scale : List Char) : ImageRecord :=
  ⟨filename, "universal".toList, scale⟩

def contentsFor (name : List Char) : Contents :=
  if name = marketing then
    ⟨[imageRecord "AppIconMarketing.png".toList "1x".toList], "xcode".toList, 1⟩
  else
    ⟨[imageRecord (name ++ ".png".toList) "1x".toList,
      imageRecord (name ++ "@2x.png".toList) "2x".toList,
      imageRecord (name ++ "@3x.png".toList) "3x".toList], "xcode".toList, 1⟩

/-- `create_imageset`: the files after it and the number it copied. -/
def createImageset (source : Source) (assets : AssetFiles) (name folder : List Char) :
    AssetFiles × ℕ :=
  let copied :=
    (scalesFor name).foldl (copyScale source (imagesetDir name folder) name) (assets, [])
  (dictSet copied.1 (contentsPath name folder) (.contents (contentsFor name)), copied.2.length)

/-- `main`: `none` when `SOURCE_DIR` does not exist; else the files and
`total_files`. -/
def setupAssets (source : Option Source) (assets : AssetFiles) : Option (AssetFiles × ℕ) :=
  source.map fun src =>
    imageMapping.foldl
      (fun acc m => let r := createImageset src acc.1 m.1 m.2; (r.1, acc.2 + r.2)) (assets, 0)

/-- `Contents.json` lists exactly the files the copy loop copies to. -/
theorem contents_filenames (name : List Char) :
    (contentsFor name).images.map (·.filename) = (scalesFor name).map (pngName name) := by
  by_cases h : name = marketing
  · subst h; decide
  · simp [contentsFor, h, scalesFor_of_ne h, scales, pngName, imageRecord]

/-! ### The writes of a run -/

def sourceFor (source : Source) (name scale : List Char) : Option (List UInt8) :=
  match dictGet source (pngName name scale) with
  | some bytes => some bytes
  | none => dictGet source (encodedName name scale)

def imagesetWrites (source : Source) (name folder : List Char) : AssetFiles :=
  (scalesFor name).filterMap (fun scale => (sourceFor source name scale).map fun bytes =>
      (imagesetDir name folder ++ [pngName name scale], .png bytes)) ++
    [(contentsPath name folder, .contents (contentsFor name))]

def mainWrites (source : Source) : AssetFiles :=
  imageMapping.flatMap fun m => imagesetWrites source m.1 m.2

theorem copyScale_fst (source : Source) (dir : List (List Char)) (name scale : List Char)
    (acc : AssetFiles × List (List Char)) :
    (copyScale source dir name acc scale).1 =
      match sourceFor source name scale with
      | some bytes => dictSet acc.1 (dir ++ [pngName name scale]) (.png bytes)
      | none => acc.1 := by
  unfold copyScale sourceFor
  cases dictGet source (pngName name scale) <;> cases dictGet source (encodedName name scale) <;>
    rfl

theorem copyScale_snd_length (source : Source) (dir : List (List Char)) (name scale : List Char)
    (acc : AssetFiles × List (List Char)) :
    (copyScale source dir name acc scale).2.length =
      acc.2.length + ((sourceFor source name scale).map fun _ => 1).getD 0 := by
  unfold copyScale sourceFor
  cases dictGet source (pngName name scale) <;> cases dictGet source (encodedName name scale) <;>
    simp

theorem foldl_copyScale (source : Source) (dir : List (List Char)) (name : List Char)
    (scs : List (List Char)) (acc : AssetFiles × List (List Char)) :
    (scs.foldl (copyScale source dir name) acc).1 =
      dictSetAll acc.1 (scs.filterMap fun scale => (sourceFor source name scale).map fun bytes =>
        (dir ++ [pngName name scale], .png bytes)) ∧
    (scs.foldl (copyScale source dir name) acc).2.length =
      acc.2.length + (scs.filterMap (sourceFor source name)).length := by
  induction scs generalizing acc with
  | nil => simp [dictSetAll]
  | cons s scs ih =>
    obtain ⟨h1, h2⟩ := ih (copyScale source dir name acc s)
    rw [List.foldl_cons, h1, h2, copyScale_fst, copyScale_snd_length]
    cases h : sourceFor source name s <;> simp [List.filterMap_cons, dictSetAll, h]
    all_goals omega

/-- `create_imageset` makes the writes of `imagesetWrites` and counts the scales
whose file it found. -/
theorem createImageset_eq (source : Source) (assets : AssetFiles) (name folder : List Char) :
    createImageset source assets name folder =
      (dictSetAll assets (imagesetWrites source name folder),
        ((scalesFor name).filterMap (sourceFor source name)).length) := by
  obtain ⟨h1, h2⟩ :=
    foldl_copyScale source (imagesetDir name folder) name (scalesFor name) (assets, [])
  simp only [createImageset, h1, h2, imagesetWrites, dictSetAll, List.foldl_append, List.foldl_cons,
    List.foldl_nil, List.length_nil, Nat.zero_add]

def copiedTotal (source : Source) : ℕ :=
  imageMapping.foldl (fun n m => n + ((scalesFor m.1).filterMap (sourceFor source m.1)).length) 0

/-- `main` makes the writes of `mainWrites`. -/
theorem setupAssets_eq (source : Source) (assets : AssetFiles) :
    setupAssets (some source) assets =
      some (dictSetAll assets (mainWrites source), copiedTotal source) := by
  suffices ∀ (ms : List (List Char × List Char)) (acc : AssetFiles × ℕ),
      ms.foldl (fun acc m => let r := createImageset source acc.1 m.1 m.2; (r.1, acc.2 + r.2)) acc =
        (dictSetAll acc.1 (ms.flatMap fun m => imagesetWrites source m.1 m.2),
          ms.foldl (fun n m => n + ((scalesFor m.1).filterMap (sourceFor source m.1)).length)
            acc.2) from
    congrArg some (this imageMapping (assets, 0))
  intro ms
  induction ms with
  | nil => simp [dictSetAll]
  | cons m ms ih =>
    intro acc
    rw [List.foldl_cons, ih]
    simp only [createImageset_eq, List.flatMap_cons, dictSetAll, List.foldl_append, List.foldl_cons]

/-- `main` returns when the source directory exists, and running it again on the
files it produced changes nothing and reports the same count. -/
theorem setupAssets_rerun (source : Source) {assets : AssetFiles} (hn : (assets.map Prod.fst).Nodup) :
    ∃ out n, setupAssets (some source) assets = some (out, n) ∧
      setupAssets (some source) out = some (out, n) := by
  refine ⟨_, _, setupAssets_eq source assets, ?_⟩
  rw [setupAssets_eq, dictSetAll_dictSetAll hn]

theorem setupAssets_rerun_empty :
    (([] : AssetFiles).map Prod.fst).Nodup ∧
      ∃ out n, setupAssets (some [("WelcomeHero.png".toList, [1])]) [] = some (out, n) ∧
        setupAssets (some [("WelcomeHero.png".toList, [1])]) out = some (out, n) :=
  ⟨List.nodup_nil, setupAssets_rerun _ List.nodup_nil⟩

/-! ### Every imageset after a run -/

theorem imagesetDir_inj {name folder name' folder' : List Char}
    (h : imagesetDir name folder = imagesetDir name' folder') :
    name = name' ∧ folder = folder' := by
  simp only [imagesetDir, List.cons.injEq, List.append_cancel_right_eq, and_true] at h
  exact ⟨h.2, h.1⟩

theorem pngName_inj {name scale scale' : List Char} (h : pngName name scale = pngName name scale') :
    scale = scale' := by
  simpa [pngName] using h

theorem pngName_ne_contents (name scale : List Char) :
    pngName name scale ≠ "Contents.json".toList := fun h =>
  absurd (h ▸ List.suffix_append _ _ : ".png".toList <:+ "Contents.json".toList) (by decide)

theorem png_path_inj {name folder scale name' folder' scale' : List Char}
    (h : imagesetDir name folder ++ [pngName name scale] =
      imagesetDir name' folder' ++ [pngName name' scale']) :
    name = name' ∧ folder = folder' ∧ scale = scale' := by
  have ⟨hd, hn⟩ := List.append_inj h rfl
  obtain ⟨rfl, rfl⟩ := imagesetDir_inj hd
  exact ⟨rfl, rfl, pngName_inj (List.singleton_inj.mp hn)⟩

theorem png_path_ne_contents (name folder scale name' folder' : List Char) :
    imagesetDir name folder ++ [pngName name scale] ≠ contentsPath name' folder' := fun h =>
  pngName_ne_contents name scale (List.singleton_inj.mp (List.append_inj h rfl).2)

theorem mem_mainWrites {source : Source} {w : List (List Char) × AssetFile} :
    w ∈ mainWrites source ↔ ∃ m ∈ imageMapping,
      (∃ scale ∈ scalesFor m.1, ∃ bytes, sourceFor source m.1 scale = some bytes ∧
        w = (imagesetDir m.1 m.2 ++ [pngName m.1 scale], .png bytes)) ∨
      w = (contentsPath m.1 m.2, .contents (contentsFor m.1)) := by
  simp only [mainWrites, imagesetWrites, List.mem_flatMap, List.mem_append, List.mem_filterMap,
    Option.map_eq_some', List.mem_singleton]
  constructor
  · rintro ⟨m, hm, ⟨scale, hs, bytes, hb, rfl⟩ | rfl⟩
    · exact ⟨m, hm, .inl ⟨scale, hs, bytes, hb, rfl⟩⟩
    · exact ⟨m, hm, .inr rfl⟩
  · rintro ⟨m, hm, ⟨scale, hs, bytes, hb, rfl⟩ | rfl⟩
    · exact ⟨m, hm, .inl ⟨scale, hs, bytes, hb, rfl⟩⟩
    · exact ⟨m, hm, .inr rfl⟩

theorem setupAssets_imageset {source : Source} {assets out : AssetFiles} {n : ℕ}
    (h : setupAssets (some source) assets = some (out, n)) {name folder : List Char}
    (hm : (name, folder) ∈ imageMapping) :
    dictGet out (contentsPath name folder) = some (.contents (contentsFor name)) ∧
      ∀ scale ∈ scalesFor name, dictGet out (imagesetDir name folder ++ [pngName name scale]) =
        match sourceFor source name scale with
        | some bytes => some (.png bytes)
        | none => dictGet assets (imagesetDir name folder ++ [pngName name scale]) := by
  rw [setupAssets_eq] at h
  obtain ⟨rfl, -⟩ := Prod.mk.inj (Option.some.inj h)
  refine ⟨?_, fun scale hs => ?_⟩
  · rw [dictGet_dictSetAll,
      dictGet_eq_some_of_forall (by simpa using mem_mainWrites.mpr ⟨_, hm, .inr rfl⟩)]
    intro w hw hk
    obtain ⟨m, -, ⟨sc, -, b, -, rfl⟩ | rfl⟩ := mem_mainWrites.mp (List.mem_reverse.mp hw)
    · exact absurd hk (png_path_ne_contents _ _ _ _ _)
    · obtain ⟨hn, -⟩ := imagesetDir_inj (List.append_inj hk rfl).1
      simp [hn]
  · rw [dictGet_dictSetAll]
    cases hsrc : sourceFor source name scale with
    | some bytes =>
      rw [dictGet_eq_some_of_forall
        (by simpa using mem_mainWrites.mpr ⟨_, hm, .inl ⟨scale, hs, bytes, hsrc, rfl⟩⟩)]
      intro w hw hk
      obtain ⟨m, -, ⟨sc, -, b, hb, rfl⟩ | rfl⟩ := mem_mainWrites.mp (List.mem_reverse.mp hw)
      · obtain ⟨rfl, -, rfl⟩ := png_path_inj hk
        simp_all
      · exact absurd hk.symm (png_path_ne_contents _ _ _ _ _)
    | none =>
      rw [dictGet_eq_none_iff.mpr]
      intro hk
      obtain ⟨w, hw, hk⟩ := List.mem_map.mp hk
      obtain ⟨m, -, ⟨sc, -, b, hb, rfl⟩ | rfl⟩ := mem_mainWrites.mp (List.mem_reverse.mp hw)
      · obtain ⟨rfl, -, rfl⟩ := png_path_inj hk
        simp_all
      · exact png_path_ne_contents _ _ _ _ _ hk.symm

/-- `main` returns when the source directory exists, and afterwards every image
that the `Contents.json` of an imageset lists is the file found for it in the
source directory, or what was there before when none was found. -/
theorem setupAssets_listed_images (source : Source) (assets : AssetFiles) {name folder : List Char}
    (hm : (name, folder) ∈ imageMapping) :
    ∃ out n, setupAssets (some source) assets = some (out, n) ∧
      dictGet out (contentsPath name folder) = some (.contents (contentsFor name)) ∧
      ∀ img ∈ (contentsFor name).images, ∃ scale ∈ scalesFor name, img.filename = pngName name scale ∧
        dictGet out (imagesetDir name folder ++ [img.filename]) =
          match sourceFor source name scale with
          | some bytes => some (.png bytes)
          | none => dictGet assets (imagesetDir name folder ++ [img.filename]) := by
  have h := setupAssets_eq source assets
  obtain ⟨hc, hs⟩ := setupAssets_imageset h hm
  refine ⟨_, _, h, hc, fun img himg => ?_⟩
  obtain ⟨scale, hsc, hf⟩ :=
    List.mem_map.mp (contents_filenames name ▸ List.mem_map_of_mem ImageRecord.filename himg)
  exact ⟨scale, hsc, hf.symm, hf ▸ hs scale hsc⟩

theorem setupAssets_listed_images_hero :
    ("WelcomeHero".toList, "Hero".toList) ∈ imageMapping ∧
      ∃ out n, setupAssets (some [("WelcomeHero%402x.png".toList, [2])]) [] = some (out, n) ∧
        dictGet out (contentsPath "WelcomeHero".toList "Hero".toList) =
          some (.contents (contentsFor "WelcomeHero".toList)) ∧
        ∀ img ∈ (contentsFor "WelcomeHero".toList).images, ∃ scale ∈ scalesFor "WelcomeHero".toList,
          img.filename = pngName "WelcomeHero".toList scale ∧
          dictGet out (imagesetDir "WelcomeHero".toList "Hero".toList ++ [img.filename]) =
            match sourceFor [("WelcomeHero%402x.png".toList, [2])] "WelcomeHero".toList scale with
            | some bytes => some (.png bytes)
            | none => dictGet [] (imagesetDir "WelcomeHero".toList "Hero".toList ++ [img.filename]) :=
  ⟨by decide, setupAssets_listed_images _ _ (by decide)⟩

end VibeZScripts.Assets
