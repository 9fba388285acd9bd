import VibeZScripts.Extract.Patterns

/-! # Quoted strings against a lexer

`extract_quoted_strings` runs one regex per kind of quote over the whole line. A
lexer reads the line once from the left instead, each literal up to its own
closing quote, a backslash taking the next character into the body. The two give
the same strings when no token the lexer reads holds a backslash or a quote of
another kind: a quote inside another kind's literal opens a literal for its own
regex.
-/
namespace VibeZScripts.Extract
open Python

def isQuote (c : Char) : Bool := c == '\x27' || c == '"' || c == '`'

/-- A literal's body after its opening quote `q`, escapes kept, and the text after
its closing quote; `none` when the line ends first. -/
def lexBody (q : Char) : List Char → Option (List Char × List Char)
  | [] => none
  | c :: cs =>
    if c = q then some ([], cs)
    else if c = '\\' then
      match cs with
      | x :: rest => (lexBody q rest).map fun r => (c :: x :: r.1, r.2)
      | [] => none
    else (lexBody q cs).map fun r => (c :: r.1, r.2)

section LexBody

variable {q c : Char} {cs : List Char}

@[simp] theorem lexBody_self : lexBody q (q :: cs) = some ([], cs) := by
  rw [lexBody.eq_def]; simp

theorem lexBody_plain (hq : c ≠ q) (hc : c ≠ '\\') :
    lexBody q (c :: cs) = (lexBody q cs).map fun r => (c :: r.1, r.2) := by
  rw [lexBody.eq_def]; simp [hq, hc]

end LexBody

theorem lexBody_eq_some {q : Char} {s b r : List Char} (h : lexBody q s = some (b, r)) :
    s = b ++ q :: r ∧ ('\\' ∉ b → q ∉ b) := by
  induction s using lexBody.induct q generalizing b r with
  | case1 => cases h
  | case2 cs => cases lexBody_self.symm.trans h; simp
  | case3 x rest hq ih =>
    rw [lexBody.eq_def] at h
    simp only [if_neg hq, ite_true, Option.map_eq_some'] at h
    obtain ⟨⟨b', r'⟩, h', ⟨⟩⟩ := h
    simp [(ih h').1]
  | case4 hq => rw [lexBody.eq_def] at h; simp [hq] at h
  | case5 c cs hq hc ih =>
    obtain ⟨⟨b', r'⟩, h', ⟨⟩⟩ :=
      Option.map_eq_some'.mp ((lexBody_plain hq hc).symm.trans h)
    obtain ⟨rfl, hb⟩ := ih h'
    simp_all [Ne.symm hq]

theorem not_mem_of_lexBody_eq_none {q : Char} {s : List Char} (h : lexBody q s = none)
    (hb : '\\' ∉ s) : q ∉ s := by
  induction s with
  | nil => simp
  | cons c cs ih =>
    have hc : c ≠ '\\' := fun e => hb (e ▸ List.mem_cons_self _ _)
    by_cases hq : c = q
    · subst hq; simp at h
    · rw [lexBody_plain hq hc, Option.map_eq_none'] at h
      simp [Ne.symm hq, ih h (fun m => hb (List.mem_cons_of_mem _ m))]

/-- A quoted token of the lexer: its quote, the text after the quote (escapes
kept) and whether a closing quote ended it. -/
structure Token where
  quote : Char
  text : List Char
  closed : Bool
  deriving DecidableEq, Repr, Inhabited

/-- The lexer: outside a literal it skips to the next quote; a literal without its
closing quote takes the rest of the line. -/
def lexTokens : List Char → List Token
  | [] => []
  | c :: cs =>
    if isQuote c then
      match h : lexBody c cs with
      | some (body, rest) =>
        have : rest.length < cs.length + 1 := by simp [(lexBody_eq_some h).1]; omega
        ⟨c, body, true⟩ :: lexTokens rest
      | none => [⟨c, cs, false⟩]
    else lexTokens cs
termination_by s => s.length

section LexTokens

variable {c : Char} {cs : List Char}

theorem lexTokens_literal {body rest : List Char} (hc : isQuote c)
    (h : lexBody c cs = some (body, rest)) :
    lexTokens (c :: cs) = ⟨c, body, true⟩ :: lexTokens rest := by
  rw [lexTokens, if_pos hc]; split <;> simp_all

theorem lexTokens_unterminated (hc : isQuote c) (h : lexBody c cs = none) :
    lexTokens (c :: cs) = [⟨c, cs, false⟩] := by
  rw [lexTokens, if_pos hc]; split <;> simp_all

theorem lexTokens_code (hc : ¬ isQuote c) : lexTokens (c :: cs) = lexTokens cs := by
  rw [lexTokens, if_neg hc]

end LexTokens

def literals (line : List Char) : List (List Char) :=
  ((lexTokens line).filter (·.closed)).map (·.text)

def Token.plain (t : Token) : Bool :=
  t.text.all fun c => c != '\\' && (!isQuote c || c == t.quote)

theorem Token.backslash_not_mem {t : Token} (h : t.plain) : '\\' ∉ t.text := fun m => by
  simpa using (List.all_eq_true.mp h _ m)

theorem Token.quote_not_mem {t : Token} (h : t.plain) {q : Char} (hq : isQuote q)
    (hne : q ≠ t.quote) : q ∉ t.text := fun m => by
  simpa [hq, hne] using (List.all_eq_true.mp h _ m)

/-! ### The quote regexes on plain text -/

section QuotedPattern

variable {q : Char}

theorem quotedMatch_cons_of_ne {c : Char} (cs : List Char) (h : c ≠ q) :
    quotedMatch q (c :: cs) = none := by
  simp [quotedMatch, h]

theorem findall_quoted_append {b : List Char} (s : List Char) (hq : q ∉ b) :
    (quotedPattern q).findall (b ++ s) = (quotedPattern q).findall s :=
  Pattern.findall_append_of_no_match _ fun u hu hne => by
    obtain ⟨d, ds, rfl⟩ := List.exists_cons_of_ne_nil hne
    exact quotedMatch_cons_of_ne _ fun e => hq (e ▸ hu.subset (List.mem_cons_self _ _))

theorem quoteBody_append {b : List Char} (r : List Char) (hq : q ∉ b) (hb : '\\' ∉ b) :
    quoteBody q (b ++ q :: r) = some (b, r) := by
  induction b with
  | nil => simp
  | cons c cs ih =>
    simp only [List.mem_cons, not_or] at hq hb
    rw [List.cons_append, quoteBody_plain (Ne.symm hq.1) (Ne.symm hb.1), ih hq.2 hb.2]
    rfl

theorem quoteBody_of_not_mem {s : List Char} (hq : q ∉ s) (hb : '\\' ∉ s) :
    quoteBody q s = none := by
  induction s with
  | nil => rfl
  | cons c cs ih =>
    simp only [List.mem_cons, not_or] at hq hb
    rw [quoteBody_plain (Ne.symm hq.1) (Ne.symm hb.1), ih hq.2 hb.2]
    rfl

/-- On a line whose tokens are plain, the regex of a quote `q` finds exactly the
bodies of the lexer's literals of kind `q`. -/
theorem findall_quoted_eq (hq : isQuote q) (line : List Char)
    (hp : ∀ t ∈ lexTokens line, t.plain) : (quotedPattern q).findall line =
      ((lexTokens line).filter fun t => t.closed && t.quote == q).map (·.text) := by
  induction line using lexTokens.induct with
  | case1 => simp [lexTokens]
  | case2 c cs hc body rest h _ ih =>
    rw [lexTokens_literal hc h] at hp ⊢
    obtain ⟨rfl, hbq⟩ := lexBody_eq_some h
    have hb := hp _ (List.mem_cons_self _ _)
    have hnb : '\\' ∉ body := Token.backslash_not_mem hb
    by_cases hcq : c = q
    · subst hcq
      have hm : quotedMatch c (c :: (body ++ c :: rest)) = some (body, rest) := by
        simp [quotedMatch, quoteBody_append rest (hbq hnb) hnb]
      rw [Pattern.findall_of_matchAt _ hm]
      simp [ih fun t ht => hp t (List.mem_cons_of_mem _ ht)]
    · rw [Pattern.findall_cons_of_matchAt _ (quotedMatch_cons_of_ne _ hcq),
        findall_quoted_append _ (Token.quote_not_mem hb hq (Ne.symm hcq)),
        Pattern.findall_cons_of_matchAt _ (quotedMatch_cons_of_ne _ hcq)]
      simp [hcq, ih fun t ht => hp t (List.mem_cons_of_mem _ ht)]
  | case3 c cs hc h =>
    rw [lexTokens_unterminated hc h] at hp ⊢
    have hb := hp _ (List.mem_cons_self _ _)
    have hnb : '\\' ∉ cs := Token.backslash_not_mem hb
    have hqs : q ∉ cs := by
      by_cases hcq : q = c
      · exact hcq ▸ not_mem_of_lexBody_eq_none h hnb
      · exact Token.quote_not_mem hb hq hcq
    have hm : quotedMatch q (c :: cs) = none := by
      by_cases hcq : c = q
      · simp [quotedMatch, hcq, quoteBody_of_not_mem hqs hnb]
      · exact quotedMatch_cons_of_ne _ hcq
    rw [Pattern.findall_cons_of_matchAt _ hm, ← List.append_nil cs, findall_quoted_append _ hqs]
    simp [hc]
  | case4 c cs hc ih =>
    rw [lexTokens_code hc] at hp ⊢
    have hm := quotedMatch_cons_of_ne cs fun (e : c = q) => hc (e ▸ hq)
    rw [Pattern.findall_cons_of_matchAt _ hm, ih hp]

end QuotedPattern

theorem isQuote_of_mem_lexTokens (line : List Char) :
    ∀ t ∈ lexTokens line, isQuote t.quote := by
  induction line using lexTokens.induct with
  | case1 => simp [lexTokens]
  | case2 c cs hc body rest h _ ih => simpa [lexTokens_literal hc h, hc] using ih
  | case3 c cs hc h => simpa [lexTokens_unterminated hc h] using hc
  | case4 c cs hc ih => rwa [lexTokens_code hc]

def quoteChars : List Char := ['\x27', '"', '`']

theorem perm_flatMap_quoteChars (ts : List Token) (h : ∀ t ∈ ts, isQuote t.quote) :
    (quoteChars.flatMap fun q => ts.filter fun t => t.closed && t.quote == q).Perm
      (ts.filter (·.closed)) := by
  induction ts with
  | nil => simp
  | cons t ts ih =>
    have ih := ih fun u hu => h u (List.mem_cons_of_mem _ hu)
    have ht : t.quote = '\x27' ∨ t.quote = '"' ∨ t.quote = '`' := by
      simpa [isQuote, or_assoc] using h t (List.mem_cons_self _ _)
    cases hcl : t.closed
    · simpa [quoteChars, hcl] using ih
    · rcases ht with ht | ht | ht <;> simp [quoteChars, List.filter_cons, hcl, ht] at ih ⊢
      · exact ih
      · exact List.perm_middle.trans (ih.cons t)
      · exact ((List.perm_middle.append_left _).trans List.perm_middle).trans (ih.cons t)

/-- On a line none of whose tokens holds a backslash or a quote of another kind,
`extract_quoted_strings` returns, in another order, the bodies of the lexer's
literals that pass its filter. -/
theorem extractQuotedStrings_perm_literals (line : List Char)
    (hp : ∀ t ∈ lexTokens line, t.plain) :
    (extractQuotedStrings line).Perm ((literals line).filter keepString) := by
  have hsplit := perm_flatMap_quoteChars _ (isQuote_of_mem_lexTokens line)
  simp only [quoteChars, List.flatMap_cons, List.flatMap_nil, List.append_nil] at hsplit
  rw [extractQuotedStrings, quotePatterns, literals]
  simp only [List.flatMap_cons, List.flatMap_nil, List.append_nil, ← List.map_append,
    findall_quoted_eq (by decide : isQuote '\x27') line hp,
    findall_quoted_eq (by decide : isQuote '"') line hp,
    findall_quoted_eq (by decide : isQuote '`') line hp]
  exact (hsplit.map _).filter _

unseal lexTokens in
theorem extractQuotedStrings_perm_sample :
    (∀ t ∈ lexTokens "title: \"Welcome back\", label: \x27Sign in\x27".toList, t.plain) ∧
      (extractQuotedStrings "title: \"Welcome back\", label: \x27Sign in\x27".toList).Perm
        ((literals "title: \"Welcome back\", label: \x27Sign in\x27".toList).filter keepString) :=
  have h : ∀ t ∈ lexTokens "title: \"Welcome back\", label: \x27Sign in\x27".toList, t.plain := by
    decide
  ⟨h, extractQuotedStrings_perm_literals _ h⟩

unseal Pattern.findall lexTokens in
/-- A double-quoted word with an apostrophe, then a single-quoted word: the
single-quote regex reads from the apostrophe to the next single quote. -/
theorem mixed_quotes_split :
    ¬ ∀ line : List Char, ¬ "//".toList <:+: line → ¬ "/*".toList <:+: line →
      ¬ "$\x7b".toList <:+: line → (extractQuotedStrings line).Perm ((literals line).filter keepString) := by
  intro h
  have := h "\"don\x27t\" + \x27okay\x27".toList (by decide) (by decide) (by decide)
  revert this
  decide

end VibeZScripts.Extract
