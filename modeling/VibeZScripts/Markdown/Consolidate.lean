import VibeZScripts.Python.Text
import VibeZScripts.Python.Dict
import Mathlib.Data.List.Sort
import Mathlib.Data.List.Lex
import Mathlib.Data.Char

/-! # `consolidate-markdown.py`

`consolidate_markdown_files` walks `root_dir`, keeps the `.md` files outside the
skipped directories, sorts them by relative path, groups them in a dict by first
path component, and writes a header, a table of contents and one section per
file. The document is built as the list `consolidated` of pieces; the file holds
their concatenation. Strings compare as Python compares them, code point by code
point, which is the lexicographic order on `List Char`.
-/
namespace VibeZScripts.Markdown
open Python

/-- What reading a file gives: its text, or the message of the exception raised. -/
inductive FileRead
  | readable (content : List Char)
  | unreadable (error : List Char)
deriving DecidableEq, Repr, Inhabited

/-- `read_file_content`: the text, or an HTML comment carrying the error. -/
def readFileContent : FileRead → List Char
  | .readable content => content
  | .unreadable e => "<!-- Error reading file: ".toList ++ e ++ " -->\n".toList

/-- A file under `root_dir`: the directories leading to it, its name, and what
reading it gives. Path components are non-empty and hold no `/`. -/
structure FileEntry where
  dirs : List (List Char)
  name : List Char
  read : FileRead
  valid : ∀ c ∈ dirs ++ [name], c ≠ [] ∧ '/' ∉ c

/-- A directory tree, by its files: no two share a path. -/
structure Tree where
  files : List FileEntry
  nodup : (files.map fun e => e.dirs ++ [e.name]).Nodup

/-- The directories the walk prunes with `dirs[:] = ...`. -/
def skippedDirs : List (List Char) :=
  [".git".toList, "node_modules".toList, "dist".toList, "build".toList, ".next".toList]

def outputName : List Char := "CONSOLIDATED_DOCUMENTATION.md".toList

/-- The walk keeps a file when no directory on its way is pruned, its name ends in
`.md`, and it is not the output document. -/
def isCollected (e : FileEntry) : Bool :=
  e.dirs.all (fun d => d ∉ skippedDirs) && ".md".toList.isSuffixOf e.name && e.name != outputName

/-- `os.path.relpath(os.path.join(root, file), root_dir)`. -/
def FileEntry.relPath (e : FileEntry) : List Char :=
  ['/'].intercalate (e.dirs ++ [e.name])

theorem FileEntry.splitOn_relPath (e : FileEntry) : e.relPath.splitOn '/' = e.dirs ++ [e.name] :=
  List.splitOn_intercalate _ _ (fun c hc => (e.valid c hc).2) (by simp)

theorem FileEntry.relPath_ne_nil (e : FileEntry) : e.relPath ≠ [] := fun h => by
  have hs := e.splitOn_relPath
  rw [h, List.splitOn_nil] at hs
  have hlast := congrArg List.getLast? hs
  simp only [List.getLast?_singleton, List.getLast?_append, Option.or_some,
    Option.some.injEq] at hlast
  exact (e.valid e.name (by simp)).1 hlast.symm

/-- The `md_files` list the walk builds, before sorting. A pair holds the relative
path and, for the file path, what reading that path gives. The tree's file order
stands for the order `os.walk` meets them in. -/
def collectMdFiles (tree : Tree) : List (List Char × FileRead) :=
  (tree.files.filter isCollected).map fun e => (e.relPath, e.read)

/-- Distinct files have distinct relative paths, since a path splits back into its
components. -/
theorem nodup_collectMdFiles (tree : Tree) : ((collectMdFiles tree).map Prod.fst).Nodup := by
  have hsub : ((tree.files.filter isCollected).map fun e => e.dirs ++ [e.name]).Nodup :=
    tree.nodup.sublist ((List.filter_sublist _).map _)
  have hmap : (collectMdFiles tree).map Prod.fst =
      ((tree.files.filter isCollected).map fun e => e.dirs ++ [e.name]).map
        (['/'].intercalate) := by
    simp [collectMdFiles, FileEntry.relPath, Function.comp_def]
  rw [hmap]
  refine hsub.map_on fun x hx y hy hxy => ?_
  obtain ⟨e1, -, rfl⟩ := List.mem_map.mp hx
  obtain ⟨e2, -, rfl⟩ := List.mem_map.mp hy
  have h1 := e1.splitOn_relPath
  have h2 := e2.splitOn_relPath
  unfold FileEntry.relPath at h1 h2
  rw [hxy] at h1
  exact h1.symm.trans h2

/-- `datetime.now().strftime('%Y-%m-%d %H:%M:%S')`: digits and the separators. -/
structure Stamp where
  text : List Char
  valid : ∀ c ∈ text, c.isDigit ∨ c = '-' ∨ c = ' ' ∨ c = ':'

/-- `md_files.sort(key=lambda x: x[0])`. -/
def sortByPath (mdFiles : List (List Char × FileRead)) : List (List Char × FileRead) :=
  mdFiles.insertionSort (fun a b => a.1 ≤ b.1)

theorem sortByPath_perm (mdFiles : List (List Char × FileRead)) :
    (sortByPath mdFiles).Perm mdFiles :=
  List.perm_insertionSort _ mdFiles

/-- The category of a relative path: its first component when it has several. -/
def category (relPath : List Char) : List Char :=
  match relPath.splitOn '/' with
  | first :: _ :: _ => first
  | _ => "Root".toList

/-- `if category not in toc_sections: toc_sections[category] = []`, then
`toc_sections[category].append(rel_path)`. -/
def addPath (sections : List (List Char × List (List Char))) (cat p : List Char) :
    List (List Char × List (List Char)) :=
  dictUpdate sections cat [] fun ps => ps ++ [p]

/-- The dict `toc_sections`, keys in insertion order. -/
def tocSections (mdFiles : List (List Char × FileRead)) : List (List Char × List (List Char)) :=
  mdFiles.foldl (fun sections f => addPath sections (category f.1) f.1) []

def lookupSection (sections : List (List Char × List (List Char))) (cat : List Char) :
    List (List Char) :=
  (dictGet sections cat).getD []

@[simp] theorem lookupSection_nil (cat : List Char) : lookupSection [] cat = [] := rfl

@[simp] theorem lookupSection_cons (k cat : List Char) (ps : List (List Char))
    (rest : List (List Char × List (List Char))) :
    lookupSection ((k, ps) :: rest) cat = if cat = k then ps else lookupSection rest cat := by
  by_cases h : cat = k <;> simp [lookupSection, dictGet, h, Ne.symm]

/-- `category.lower().replace(' ', '-')`. -/
def anchor (cat : List Char) : List Char :=
  (lower cat).map fun c => if c = ' ' then '-' else c

def tocLine (n : ℕ) (cat : List Char) : List Char :=
  (toString n).toList ++ ". [".toList ++ cat ++ "](#".toList ++ anchor cat ++ ")\n".toList

/-- The table of contents, `section_num` counting from `n`. -/
def tocLines : ℕ → List (List Char) → List (List Char)
  | _, [] => []
  | n, cat :: cats => tocLine n cat :: tocLines (n + 1) cats

def header (generated : Stamp) (total : ℕ) : List (List Char) :=
  ["# VibeZ Consolidated Documentation\n".toList,
    "**Generated**: ".toList ++ generated.text ++ "\n".toList,
    "**Purpose**: Complete consolidation of all markdown documentation files\n".toList,
    "**Total Files Consolidated**: ".toList ++ (toString total).toList ++ "\n".toList,
    "\n---\n\n".toList, "## Table of Contents\n\n".toList]

def categoryHeader (cat : List Char) : List Char :=
  "# ".toList ++ cat ++ "\n\n".toList

/-- What follows the `---` of a section: the content with a closing newline, or the
empty-file marker when `content.strip()` is empty. -/
def contentChunks (content : List Char) : List (List Char) :=
  if strip content ≠ [] then
    if content.getLast? = some '\n' then [content] else [content, "\n".toList]
  else ["*(File is empty)*\n".toList]

def sourceLine (relPath : List Char) : List Char :=
  "**Source**: `".toList ++ relPath ++ "`\n\n".toList

def sectionChunks (relPath : List Char) (read : FileRead) : List (List Char) :=
  ["## ".toList ++ relPath ++ "\n\n".toList, sourceLine relPath, "---\n\n".toList] ++
    contentChunks (readFileContent read) ++ ["\n---\n\n".toList]

/-- One file's section; the file is found again with `next(...)` over `md_files`,
which fails (`StopIteration`) when no pair has that path. -/
def fileChunks (mdFiles : List (List Char × FileRead)) (relPath : List Char) :
    Option (List (List Char)) :=
  (mdFiles.find? (·.1 == relPath)).map fun f => sectionChunks relPath f.2

def categoryChunks (mdFiles : List (List Char × FileRead))
    (sections : List (List Char × List (List Char))) (cat : List Char) :
    Option (List (List Char)) := do
  let files ← (sortStrings (lookupSection sections cat)).mapM (fileChunks mdFiles)
  pure (categoryHeader cat :: files.flatten)

/-- `consolidated` after the walk: sort, group, and emit. -/
def consolidateDoc (generated : Stamp) (files : List (List Char × FileRead)) :
    Option (List (List Char)) := do
  let mdFiles := sortByPath files
  let sections := tocSections mdFiles
  let cats := sortStrings (sections.map Prod.fst)
  let body ← cats.mapM (categoryChunks mdFiles sections)
  pure (header generated mdFiles.length ++ tocLines 1 cats ++ ["\n---\n\n".toList] ++ body.flatten)

/-- `consolidate_markdown_files(root_dir, output_file)`: the text written to the
output file and the returned count. -/
def consolidateMarkdownFiles (generated : Stamp) (tree : Tree) : Option (List Char × ℕ) :=
  (consolidateDoc generated (collectMdFiles tree)).map fun chunks =>
    (chunks.flatten, (collectMdFiles tree).length)

end VibeZScripts.Markdown
