import VibeZScripts.Python.Findall

/-! # The regexes of `extract_strings.py`

Each pattern of the script is translated to a recognizer with its backtracking
resolved: a greedy run followed by a character the run's class excludes can only
match at its longest. The patterns are raw strings, so `r"^\\d+$"` is the regex
`^\\d+$`: a literal backslash, then `d`s. The classes `\d` and `\w` are Python's
Unicode classes, and `\s` is `str.isspace`.
-/
namespace VibeZScripts.Extract
open Python

/-- `re.search`: the pattern, given the character before a position and the text
from there, matches at some position. -/
def searchAt (p : Option Char → List Char → Bool) : Option Char → List Char → Bool
  | prev, [] => p prev []
  | prev, c :: cs => p prev (c :: cs) || searchAt p (some c) cs

/-! ### `CODE_LIKE_PATTERNS` -/

/-- `^[...]+$`: the text is a non-empty run of the class, then the end or a last newline. -/
def wholeRun (cls : Char → Bool) (text : List Char) : Bool :=
  !(text.takeWhile cls).isEmpty && (text.dropWhile cls == [] || text.dropWhile cls == ['\n'])

def isLowerOrUnderscore (c : Char) : Bool := 'a' ≤ c && c ≤ 'z' || c == '_'

def isUpperOrUnderscore (c : Char) : Bool := 'A' ≤ c && c ≤ 'Z' || c == '_'

/-- `^\\.`: a backslash, then a character other than a newline. -/
def backslashAny : List Char → Bool
  | '\\' :: c :: _ => c != '\n'
  | _ => false

/-- `^/[^/]+`: a slash, then a character other than a slash. -/
def absolutePath : List Char → Bool
  | '/' :: c :: _ => c != '/'
  | _ => false

/-- `^\\w+\\.\\w+$`: a backslash and `w`s, a backslash, a character other than a
newline, a backslash and `w`s, the end. -/
def backslashWords : List Char → Bool
  | '\\' :: rest =>
    !(rest.takeWhile (· == 'w')).isEmpty &&
      match rest.dropWhile (· == 'w') with
      | '\\' :: c :: '\\' :: tail => c != '\n' && wholeRun (· == 'w') tail
      | _ => false
  | _ => false

/-- `SELECT|INSERT|UPDATE|DELETE` under IGNORECASE, at one position. -/
def sqlKeyword (t : List Char) : Bool :=
  ["SELECT", "INSERT", "UPDATE", "DELETE"].any fun kw => ciPrefix kw.toList t

/-- `^\\d+$`: a backslash, then `d`s, then the end. -/
def backslashDigits : List Char → Bool
  | '\\' :: rest => wholeRun (· == 'd') rest
  | _ => false

/-- `CODE_LIKE_PATTERNS` in the source's order, each as `p.search(text)`. -/
def codeLikePatterns : List (List Char → Bool) :=
  [wholeRun isLowerOrUnderscore, wholeRun isUpperOrUnderscore, backslashAny, absolutePath,
    backslashWords, searchAt (fun _ => sqlKeyword) none, backslashDigits]

def isCodeLike (text : List Char) : Bool :=
  codeLikePatterns.any fun p => p text

/-- The patterns commented as file extensions, `module.method` and pure numbers
match only text that starts with a backslash. -/
theorem backslash_patterns_eq_false {text : List Char} (h : text.head? ≠ some '\\') :
    backslashAny text = false ∧ backslashWords text = false ∧ backslashDigits text = false := by
  match text, h with
  | [], _ => exact ⟨rfl, rfl, rfl⟩
  | c :: cs, h =>
    have hc : c ≠ '\\' := fun e => h (by rw [e]; rfl)
    simp [backslashAny, backslashWords, backslashDigits, hc]

theorem searchAt_eq_false {p : Option Char → List Char → Bool} {t : List Char}
    (h : ∀ prev u, u <:+ t → p prev u = false) (prev : Option Char) :
    searchAt p prev t = false := by
  induction t generalizing prev with
  | nil => exact h _ _ (List.suffix_refl _)
  | cons c cs ih =>
    simp only [searchAt, h _ _ (List.suffix_refl _),
      ih fun q u hu => h q u (hu.trans (List.suffix_cons _ _)), Bool.or_false]

theorem sqlKeyword_cons_eq_false {d : Char} (ds : List Char)
    (h : ∀ k ∈ "SIUD".toList, ciEq k d = false) : sqlKeyword (d :: ds) = false := by
  simp [sqlKeyword, ciPrefix, h]

def asciiDigits : List Char := "0123456789".toList

theorem digit_not_code_head : ∀ d ∈ asciiDigits,
    isLowerOrUnderscore d = false ∧ isUpperOrUnderscore d = false ∧ d ≠ '\\' ∧ d ≠ '/' ∧
      ∀ k ∈ "SIUD".toList, ciEq k d = false := by
  decide

/-- The comment of `^\\d+$` promises that pure numbers are code: no non-empty
string of digits is. -/
theorem isCodeLike_digits {s : List Char} (hne : s ≠ []) (hd : ∀ c ∈ s, c ∈ asciiDigits) :
    isCodeLike s = false := by
  obtain ⟨c, cs, rfl⟩ := List.exists_cons_of_ne_nil hne
  obtain ⟨hl, hu, hb, hs, -⟩ := digit_not_code_head c (hd c (List.mem_cons_self _ _))
  obtain ⟨h1, h2, h3⟩ :=
    backslash_patterns_eq_false (show (c :: cs).head? ≠ some '\\' by simpa using hb)
  have hsql : searchAt (fun _ => sqlKeyword) none (c :: cs) = false := by
    refine searchAt_eq_false (fun _ u hu => ?_) none
    match u, hu with
    | [], _ => rfl
    | d :: ds, hu =>
      exact sqlKeyword_cons_eq_false ds
        (digit_not_code_head d (hd d (hu.subset (List.mem_cons_self _ _)))).2.2.2.2
  simp [isCodeLike, codeLikePatterns, wholeRun, absolutePath, hl, hu, hs, h1, h2, h3, hsql]

theorem isCodeLike_year :
    "2024".toList ≠ [] ∧ (∀ c ∈ "2024".toList, c ∈ asciiDigits) ∧ isCodeLike "2024".toList = false :=
  ⟨by decide, by decide, isCodeLike_digits (by decide) (by decide)⟩

/-! ### Quoted strings -/

/-- The body of `'([^'\\\\]*(?:\\\\.[^'\\\\]*)*)'` after its opening quote `q`:
characters other than `q` and a backslash, or two backslashes and a character
other than a newline, up to the closing `q`. The class and the escape start
differently, so the regex has at most one way to match. -/
def quoteBody (q : Char) : List Char → Option (List Char × List Char)
  | [] => none
  | c :: cs =>
    if c = q then some ([], cs)
    else if c = '\\' then
      match cs with
      | '\\' :: x :: rest =>
        if x = '\n' then none else (quoteBody q rest).map fun r => ('\\' :: '\\' :: x :: r.1, r.2)
      | _ => none
    else (quoteBody q cs).map fun r => (c :: r.1, r.2)

section QuoteBody

variable {q c : Char} {cs : List Char}

@[simp] theorem quoteBody_nil : quoteBody q [] = none := rfl

@[simp] theorem quoteBody_self : quoteBody q (q :: cs) = some ([], cs) := by
  rw [quoteBody.eq_def]; simp

theorem quoteBody_plain (hq : c ≠ q) (hc : c ≠ '\\') :
    quoteBody q (c :: cs) = (quoteBody q cs).map fun r => (c :: r.1, r.2) := by
  rw [quoteBody.eq_def]; simp [hq, hc]

theorem quoteBody_suffix {s b r : List Char} (h : quoteBody q s = some (b, r)) : r <:+ s := by
  induction s using quoteBody.induct q generalizing b r with
  | case1 => cases h
  | case2 cs => cases quoteBody_self.symm.trans h; exact List.suffix_cons _ _
  | case3 rest hq => rw [quoteBody.eq_def] at h; simp [hq] at h
  | case4 x rest hx hq ih =>
    rw [quoteBody.eq_def] at h
    simp only [if_neg hq, if_neg hx, ite_true, Option.map_eq_some'] at h
    obtain ⟨⟨b', r'⟩, h', ⟨⟩⟩ := h
    exact (ih h').trans (List.suffix_append ['\\', '\\', x] rest)
  | case5 cs _ hq => rw [quoteBody.eq_def] at h; simp only [if_neg hq, ite_true] at h; cases h
  | case6 c cs hq hc ih =>
    obtain ⟨⟨b', r'⟩, h', ⟨⟩⟩ :=
      Option.map_eq_some'.mp ((quoteBody_plain hq hc).symm.trans h)
    exact (ih h').trans (List.suffix_cons _ _)

end QuoteBody

def quotedMatch (q : Char) : List Char → Option (List Char × List Char)
  | c :: cs => if c = q then quoteBody q cs else none
  | [] => none

theorem quotedMatch_rest_shorter (q : Char) (s g r : List Char)
    (h : quotedMatch q s = some (g, r)) : r.length < s.length := by
  match s, h with
  | c :: cs, h =>
    have h' : c = q ∧ quoteBody q cs = some (g, r) := by simpa [quotedMatch] using h
    exact Nat.lt_succ_of_le (quoteBody_suffix h'.2).length_le

def quotedPattern (q : Char) : Pattern := ⟨quotedMatch q, quotedMatch_rest_shorter q⟩

/-- The patterns of `extract_quoted_strings`, in its order: single quote, double
quote, backtick. -/
def quotePatterns : List Pattern :=
  [quotedPattern '\x27', quotedPattern '"', quotedPattern '`']

def keepString (s : List Char) : Bool := 3 < s.length && !isCodeLike s

def extractQuotedStrings (line : List Char) : List (List Char) :=
  (quotePatterns.flatMap fun p => p.findall line).filter keepString

theorem quoteBody_eq_some {q : Char} {s b r : List Char} (h : quoteBody q s = some (b, r)) :
    s = b ++ q :: r := by
  induction s using quoteBody.induct q generalizing b r with
  | case1 => cases h
  | case2 cs => cases quoteBody_self.symm.trans h; rfl
  | case3 rest hq => rw [quoteBody.eq_def] at h; simp [hq] at h
  | case4 x rest hx hq ih =>
    rw [quoteBody.eq_def] at h
    simp only [if_neg hq, if_neg hx, ite_true, Option.map_eq_some'] at h
    obtain ⟨⟨b', r'⟩, h', ⟨⟩⟩ := h
    rw [ih h']; rfl
  | case5 cs _ hq => rw [quoteBody.eq_def] at h; simp only [if_neg hq, ite_true] at h; cases h
  | case6 c cs hq hc ih =>
    obtain ⟨⟨b', r'⟩, h', ⟨⟩⟩ :=
      Option.map_eq_some'.mp ((quoteBody_plain hq hc).symm.trans h)
    rw [ih h']; rfl

theorem quotedMatch_eq_some {q : Char} {u g r : List Char} (h : quotedMatch q u = some (g, r)) :
    u = q :: (g ++ q :: r) :=
  match u, h with
  | c :: cs, h =>
    have ⟨hc, hb⟩ : c = q ∧ quoteBody q cs = some (g, r) := by simpa [quotedMatch] using h
    by rw [hc, quoteBody_eq_some hb]

/-- A group of a quote pattern stands between two of its quotes in the text. -/
theorem quoted_infix_of_mem_findall {q : Char} {line s : List Char}
    (h : s ∈ (quotedPattern q).findall line) : q :: s ++ [q] <:+: line := by
  have hsuf : ∀ u g r, (quotedPattern q).matchAt u = some (g, r) → r <:+ u := fun u g r hm =>
    quotedMatch_eq_some hm ▸ ⟨q :: g ++ [q], by simp⟩
  obtain ⟨u, r, hu, hm⟩ := (quotedPattern q).exists_matchAt_of_mem_findall hsuf h
  rw [quotedMatch_eq_some hm] at hu
  exact (List.IsPrefix.isInfix ⟨r, by simp⟩).trans hu.isInfix

theorem exists_quoted_infix {line s : List Char}
    (h : s ∈ quotePatterns.flatMap fun p => p.findall line) :
    ∃ q ∈ ['\x27', '"', '`'], q :: s ++ [q] <:+: line := by
  obtain ⟨p, hp, hs⟩ := List.mem_flatMap.mp h
  simp only [quotePatterns, List.mem_cons, List.mem_singleton, List.not_mem_nil, or_false] at hp
  rcases hp with rfl | rfl | rfl <;> exact ⟨_, by simp, quoted_infix_of_mem_findall hs⟩

/-- Every string `extract_quoted_strings` returns is longer than three characters, not
code-like, and stands between two equal quotes of the line. -/
theorem mem_extractQuotedStrings {line s : List Char} (h : s ∈ extractQuotedStrings line) :
    3 < s.length ∧ isCodeLike s = false ∧ ∃ q ∈ ['\x27', '"', '`'], q :: s ++ [q] <:+: line := by
  simp only [extractQuotedStrings, List.mem_filter, keepString, Bool.and_eq_true,
    decide_eq_true_eq, Bool.not_eq_true'] at h
  exact ⟨h.2.1, h.2.2, exists_quoted_infix h.1⟩

unseal Pattern.findall in
theorem mem_extractQuotedStrings_sign_in :
    "Sign in".toList ∈ extractQuotedStrings "title: \"Sign in\"".toList ∧
      3 < "Sign in".toList.length ∧ isCodeLike "Sign in".toList = false ∧
      ∃ q ∈ ['\x27', '"', '`'], q :: "Sign in".toList ++ [q] <:+: "title: \"Sign in\"".toList :=
  have h : "Sign in".toList ∈ extractQuotedStrings "title: \"Sign in\"".toList := by decide
  ⟨h, mem_extractQuotedStrings h⟩

/-! ### `USER_FACING_PATTERNS` -/

def dotStarThen (p : List Char → Bool) : List Char → Bool
  | [] => p []
  | c :: cs => p (c :: cs) || (c != '\n' && dotStarThen p cs)

/-- `res\.status\(\d+\)\.json` at one position. -/
def resStatusJson (t : List Char) : Bool :=
  ciPrefix "res.status(".toList t && !((t.drop 11).takeWhile isDecimal).isEmpty &&
    ciPrefix ").json".toList ((t.drop 11).dropWhile isDecimal)

/-- `res\.json\(` at one position. -/
def resJson (t : List Char) : Bool := ciPrefix "res.json(".toList t

/-- `throw new.*Error` at one position. -/
def throwNewError (t : List Char) : Bool :=
  ciPrefix "throw new".toList t && dotStarThen (ciPrefix "Error".toList) (t.drop 9)

def uiKeywords : List String :=
  ["message", "error", "label", "title", "placeholder", "text", "description", "toast", "alert",
    "notification", "success", "warning"]

/-- `\b(message|...|warning)\s*[:=]` at one position. Every alternative starts
with a letter, so the word boundary asks that the character before is not a word
character. -/
def uiKeyAssign (prev : Option Char) (t : List Char) : Bool :=
  !(prev.any isWordChar) && uiKeywords.any fun kw =>
    ciPrefix kw.toList t &&
      match (t.drop kw.length).dropWhile isSpace with
      | c :: _ => c == ':' || c == '='
      | [] => false

/-- `</[^>]+>` at one position. -/
def closingTag : List Char → Bool
  | '<' :: '/' :: c :: cs => c != '>' && cs.contains '>'
  | _ => false

/-- `<[^>]+>.*</[^>]+>` at one position; the first `[^>]+` runs up to the first `>`. -/
def htmlTag : List Char → Bool
  | '<' :: c :: cs =>
    c != '>' &&
      match cs.dropWhile (· != '>') with
      | _ :: rest => dotStarThen closingTag rest
      | [] => false
  | _ => false

def userFacingPatterns : List (Option Char → List Char → Bool) :=
  [fun _ => resStatusJson, fun _ => resJson, fun _ => throwNewError, uiKeyAssign, fun _ => htmlTag]

def isUserFacing (line : List Char) : Bool :=
  userFacingPatterns.any fun p => searchAt p none line

unseal Pattern.findall in
/-- A user-facing line whose literals are a number, a `module.method` name and a
file extension: all three are reported. -/
theorem code_like_strings_reported :
    isUserFacing "message: \"12345\", label: \"user.name\", title: \".test\"".toList ∧
      extractQuotedStrings "message: \"12345\", label: \"user.name\", title: \".test\"".toList =
        ["12345".toList, "user.name".toList, ".test".toList] := by
  decide

end VibeZScripts.Extract
