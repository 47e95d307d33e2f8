import HttpTemplates.Proofs.Template.Span
import Mathlib.Tactic.Tauto

/-!
# Tokens at a seam

How the tokens of a text come from those of its parts. `level` counts the braces that a reader has
open behind a text; where it is zero, the reader stands outside spans and reads on as at the
beginning (`exists_scan_append`). Two texts can be put together or taken apart there, and only the
literals on the two sides of the seam become one token (`exists_seam`). So what is made of the brace
tokens of a text is made of those in its parts (`filterMap_tokenize_append`), and what a text consists
of its parts consist of (`consists_append`).

A token on its own is one token again (`tokenize_token`), and all tokens but the last end outside
spans (`level_of_not_last`).
-/

namespace HttpTemplates.Token

/-! ### Open braces -/

/-- How many braces are open behind a text, if `n` of them are in front of it. A closing brace
outside spans closes nothing. -/
def level : Nat → Text → Nat
  | n, [] => n
  | n, c :: rest =>
    if c = openBrace then level (n + 1) rest
    else if c = closeBrace then level (n - 1) rest
    else level n rest

/-- How many braces a reader of tokens has open. -/
def Place.level : Place → Nat
  | .outside => 0
  | .inside depth => depth + 1

@[simp] theorem level_nil (n : Nat) : level n [] = n := rfl

theorem level_open (n : Nat) (rest : Text) : level n (openBrace :: rest) = level (n + 1) rest := by
  rw [level, if_pos rfl]

theorem level_close (n : Nat) (rest : Text) : level n (closeBrace :: rest) = level (n - 1) rest := by
  rw [level, if_neg closeBrace_ne_openBrace, if_pos rfl]

theorem level_char {c : Char} (hopen : c ≠ openBrace) (hclose : c ≠ closeBrace) (n : Nat)
    (rest : Text) : level n (c :: rest) = level n rest := by
  rw [level, if_neg hopen, if_neg hclose]

theorem level_append (n : Nat) (s t : Text) : level n (s ++ t) = level (level n s) t := by
  induction s generalizing n with
  | nil => rfl
  | cons c rest ih =>
      rw [List.cons_append]
      by_cases hopen : c = openBrace
      · subst hopen
        rw [level_open, level_open, ih]
      by_cases hclose : c = closeBrace
      · subst hclose
        rw [level_close, level_close, ih]
      rw [level_char hopen hclose, level_char hopen hclose, ih]

/-- A reader that has more braces open in front of a text has no fewer open behind it. -/
theorem level_mono {m n : Nat} (h : m ≤ n) (t : Text) : level m t ≤ level n t := by
  induction t generalizing m n with
  | nil => exact h
  | cons c rest ih =>
      by_cases hopen : c = openBrace
      · subst hopen
        rw [level_open, level_open]
        exact ih (Nat.succ_le_succ h)
      by_cases hclose : c = closeBrace
      · subst hclose
        rw [level_close, level_close]
        exact ih (Nat.sub_le_sub_right h 1)
      rw [level_char hopen hclose, level_char hopen hclose]
      exact ih h

/-- Outside spans, a text without an opening brace opens none. -/
theorem level_literal {t : Text} (h : openBrace ∉ t) : level 0 t = 0 := by
  induction t with
  | nil => rfl
  | cons c rest ih =>
      simp only [List.mem_cons, not_or] at h
      obtain ⟨hopen, hrest⟩ := h
      by_cases hclose : c = closeBrace
      · subst hclose
        rw [level_close, Nat.zero_sub, ih hrest]
      · rw [level_char (Ne.symm hopen) hclose, ih hrest]

/-- Inside a span, `descend` counts the same braces. -/
theorem level_of_descend {depth depth' : Nat} {t : Text} (h : descend depth t = some depth') :
    level (depth + 1) t = depth' + 1 := by
  induction t generalizing depth with
  | nil =>
      rw [descend_nil] at h
      rw [level_nil, Option.some.inj h]
  | cons c rest ih =>
      by_cases hopen : c = openBrace
      · subst hopen
        rw [descend_open] at h
        rw [level_open, ih h]
      by_cases hclose : c = closeBrace
      · subst hclose
        cases depth with
        | zero => rw [descend_close_zero] at h; exact absurd h (by simp)
        | succ depth =>
            rw [descend_close_succ] at h
            rw [level_close, Nat.add_sub_cancel, ih h]
      rw [descend_char hopen hclose] at h
      rw [level_char hopen hclose, ih h]

/-- A brace span closes all braces that it opens. -/
theorem level_span {s : Text} (h : IsSpan s) : level 0 s = 0 := by
  obtain ⟨body, rfl, hbody⟩ := h
  rw [List.cons_append, level_open, level_append, level_of_descend hbody, level_close]
  rfl

/-- What remains of a text that ends outside spans ends outside spans, wherever the text is cut. -/
theorem level_suffix {s t : Text} (h : level 0 (s ++ t) = 0) : level 0 t = 0 := by
  rw [level_append] at h
  have := level_mono (Nat.zero_le (level 0 s)) t
  omega

/-! ### Reading on -/

theorem reads_cons {depth : Nat} {read : Text} (h : Reads (.inside depth) read) (c : Char)
    (depth' : Nat) : Reads (.inside depth') (c :: read) := by
  have hlast : read.getLast? = some openBrace := h
  rw [Reads, List.getLast?_cons, hlast, Option.getD_some]

/-- **Behind a text that ends outside spans the reader goes on as outside spans**, with the literal
text that it is in the middle of. -/
theorem exists_scan_append {p : Place} {read s : Text} (hread : Reads p read)
    (h : level p.level s = 0) : ∃ tokens lit, openBrace ∉ lit ∧
      ∀ t, scan p read (s ++ t) = tokens ++ scan .outside lit t := by
  -- The cases of the scanner: `s` cannot end inside a span, and each step reads one character of it.
  fun_induction scan p read s with
  | case1 p read =>
      cases p with
      | outside => exact ⟨[], read, hread, fun t => rfl⟩
      | inside depth => exact absurd h (Nat.succ_ne_zero depth)
  | case2 read rest ih =>
      rw [level_open] at h
      obtain ⟨tokens, lit, hlit, hscan⟩ := ih rfl h
      refine ⟨flush read ++ tokens, lit, hlit, fun t => ?_⟩
      rw [List.cons_append, scan, if_pos rfl, hscan, List.append_assoc]
  | case3 read c rest hopen ih =>
      have hlevel : level 0 (c :: rest) = level 0 rest := by
        by_cases hclose : c = closeBrace
        · rw [hclose, level_close]
        · exact level_char hopen hclose 0 rest
      obtain ⟨tokens, lit, hlit, hscan⟩ :=
        ih (List.not_mem_cons_of_ne_of_not_mem (Ne.symm hopen) hread) (hlevel.symm.trans h)
      refine ⟨tokens, lit, hlit, fun t => ?_⟩
      rw [List.cons_append, scan, if_neg hopen, hscan]
  | case4 depth read rest ih =>
      rw [level_open] at h
      obtain ⟨tokens, lit, hlit, hscan⟩ := ih (reads_cons hread _ _) h
      exact ⟨tokens, lit, hlit, fun t => by rw [List.cons_append, scan_open, hscan]⟩
  | case5 read rest _ ih =>
      rw [level_close] at h
      obtain ⟨tokens, lit, hlit, hscan⟩ := ih List.not_mem_nil h
      refine ⟨(closeBrace :: read).reverse :: tokens, lit, hlit, fun t => ?_⟩
      rw [List.cons_append, scan_close_zero, hscan, List.cons_append]
  | case6 read rest _ depth ih =>
      rw [level_close] at h
      obtain ⟨tokens, lit, hlit, hscan⟩ := ih (reads_cons hread _ _) h
      exact ⟨tokens, lit, hlit, fun t => by rw [List.cons_append, scan_close_succ, hscan]⟩
  | case7 depth read c rest hopen hclose ih =>
      rw [level_char hopen hclose] at h
      obtain ⟨tokens, lit, hlit, hscan⟩ := ih (reads_cons hread _ _) h
      exact ⟨tokens, lit, hlit, fun t => by rw [List.cons_append, scan_char hopen hclose, hscan]⟩

/-- The literal text in front of the first span continues the one that was read before. -/
theorem exists_scan_literal (t : Text) : ∃ (front : Text) (tokens : List Text), openBrace ∉ front ∧
    ∀ lit, scan .outside lit t = flush (front.reverse ++ lit) ++ tokens := by
  induction t with
  | nil => exact ⟨[], [], List.not_mem_nil, fun lit => by rw [scan]; simp⟩
  | cons c rest ih =>
      by_cases hc : c = openBrace
      · subst hc
        refine ⟨[], scan (.inside 0) [openBrace] rest, List.not_mem_nil, fun lit => ?_⟩
        rw [scan, if_pos rfl]
        rfl
      · obtain ⟨front, tokens, hfront, hscan⟩ := ih
        refine ⟨c :: front, tokens, List.not_mem_cons_of_ne_of_not_mem (Ne.symm hc) hfront,
          fun lit => ?_⟩
        rw [scan, if_neg hc, hscan, List.reverse_cons, List.append_assoc, List.singleton_append]

/-- **Text without braces continues the last token** of the text in front of it, whether that ends
outside spans or not. -/
theorem exists_scan_append_plain (p : Place) (read s : Text) : ∃ front last,
    scan p read s = front ++ flush last ∧
      ∀ t, t ≠ [] → openBrace ∉ t ∧ closeBrace ∉ t →
        scan p read (s ++ t) = front ++ [last.reverse ++ t] := by
  fun_induction scan p read s with
  | case1 p read =>
      refine ⟨[], read, rfl, fun t hne hplain => ?_⟩
      have hend : scan p read t = flush (t.reverse ++ read) := by
        cases p with
        | outside =>
            have := scan_literal hplain.1 read (t := [])
            rwa [List.append_nil, scan] at this
        | inside depth =>
            have hbrace : ∀ c ∈ t, c ≠ openBrace ∧ c ≠ closeBrace := fun c hc =>
              ⟨ne_of_mem_of_not_mem hc hplain.1, ne_of_mem_of_not_mem hc hplain.2⟩
            have := scan_inside (descend_of_no_brace depth hbrace) read []
            rwa [List.append_nil, scan] at this
      simp [hend, flush, hne]
  | case2 read rest ih =>
      obtain ⟨front, last, hrest, htail⟩ := ih
      refine ⟨flush read ++ front, last, by rw [hrest, List.append_assoc], fun t hne hplain => ?_⟩
      rw [List.cons_append, scan, if_pos rfl, htail t hne hplain, List.append_assoc]
  | case3 read c rest hopen ih =>
      obtain ⟨front, last, hrest, htail⟩ := ih
      refine ⟨front, last, hrest, fun t hne hplain => ?_⟩
      rw [List.cons_append, scan, if_neg hopen, htail t hne hplain]
  | case4 depth read rest ih =>
      obtain ⟨front, last, hrest, htail⟩ := ih
      refine ⟨front, last, hrest, fun t hne hplain => ?_⟩
      rw [List.cons_append, scan_open, htail t hne hplain]
  | case5 read rest _ ih =>
      obtain ⟨front, last, hrest, htail⟩ := ih
      refine ⟨(closeBrace :: read).reverse :: front, last, by rw [hrest, List.cons_append],
        fun t hne hplain => ?_⟩
      rw [List.cons_append, scan_close_zero, htail t hne hplain, List.cons_append]
  | case6 read rest _ depth ih =>
      obtain ⟨front, last, hrest, htail⟩ := ih
      refine ⟨front, last, hrest, fun t hne hplain => ?_⟩
      rw [List.cons_append, scan_close_succ, htail t hne hplain]
  | case7 depth read c rest hopen hclose ih =>
      obtain ⟨front, last, hrest, htail⟩ := ih
      refine ⟨front, last, hrest, fun t hne hplain => ?_⟩
      rw [List.cons_append, scan_char hopen hclose, htail t hne hplain]

/-- **Where a text ends outside spans, only the literals on the two sides become one token.** -/
theorem exists_seam {s : Text} (h : level 0 s = 0) (t : Text) : ∃ front left right back,
    openBrace ∉ left ∧ openBrace ∉ right ∧ tokenize s = front ++ flush left ∧
      tokenize t = flush right ++ back ∧ tokenize (s ++ t) = front ++ flush (right ++ left) ++ back := by
  obtain ⟨front, left, hleft, hscan⟩ := exists_scan_append (p := .outside) List.not_mem_nil h
  obtain ⟨right, back, hright, hback⟩ := exists_scan_literal t
  refine ⟨front, left, right.reverse, back, hleft, by simpa using hright, ?_, ?_, ?_⟩
  · have := hscan []
    rwa [List.append_nil] at this
  · rw [tokenize, hback, List.append_nil]
  · rw [tokenize, hscan, hback, List.append_assoc]

theorem filterMap_flush {β : Type} {f : Text → Option β} (hf : ∀ s, openBrace ∉ s → f s = none)
    {read : Text} (h : openBrace ∉ read) : (flush read).filterMap f = [] := by
  rw [flush]
  split
  · rfl
  · rw [List.filterMap_cons_none (hf _ (by simpa using h)), List.filterMap_nil]

/-- What is made of the brace tokens of a text is made of those in its parts. -/
theorem filterMap_tokenize_append {β : Type} {f : Text → Option β}
    (hf : ∀ s, openBrace ∉ s → f s = none) {s : Text} (h : level 0 s = 0) (t : Text) :
    (tokenize (s ++ t)).filterMap f = (tokenize s).filterMap f ++ (tokenize t).filterMap f := by
  obtain ⟨front, left, right, back, hleft, hright, hs, ht, hst⟩ := exists_seam h t
  have hboth : openBrace ∉ right ++ left := by simp [hleft, hright]
  rw [hs, ht, hst]
  simp only [List.filterMap_append, filterMap_flush hf hleft, filterMap_flush hf hright,
    filterMap_flush hf hboth, List.nil_append, List.append_nil]

/-- The brace tokens of the text satisfy `span`, and the characters of its other tokens `char`. -/
def Consists (span : Text → Prop) (char : Char → Prop) (t : Text) : Prop :=
  ∀ token ∈ tokenize t, (token.head? = some openBrace → span token) ∧
    (openBrace ∉ token → ∀ c ∈ token, char c)

section Consists

variable {span : Text → Prop} {char : Char → Prop}

theorem forall_flush {read : Text} (h : openBrace ∉ read) :
    (∀ token ∈ flush read, (token.head? = some openBrace → span token) ∧
      (openBrace ∉ token → ∀ c ∈ token, char c)) ↔ ∀ c ∈ read, char c := by
  have hlast : read.getLast? ≠ some openBrace := fun hlast => h (List.mem_of_getLast? hlast)
  by_cases hread : read = []
  · simp [flush, hread]
  · simp [flush, hread, h, hlast]

/-- **A text that ends outside spans and another consist of what the two together consist of.** -/
theorem consists_append {s : Text} (h : level 0 s = 0) (t : Text) :
    Consists span char (s ++ t) ↔ Consists span char s ∧ Consists span char t := by
  obtain ⟨front, left, right, back, hleft, hright, hs, ht, hst⟩ := exists_seam h t
  have hboth : openBrace ∉ right ++ left := by simp [hleft, hright]
  unfold Consists
  rw [hs, ht, hst]
  simp only [List.forall_mem_append, forall_flush hleft, forall_flush hright, forall_flush hboth]
  tauto

theorem consists_literal {t : Text} (h : openBrace ∉ t) :
    Consists span char t ↔ ∀ c ∈ t, char c := by
  unfold Consists
  rw [tokenize_literal h, forall_flush (by simpa using h)]
  simp only [List.mem_reverse]

end Consists

/-! ### Tokens on their own -/

/-- A token on its own is one token. -/
theorem tokenize_token {t token : Text} (h : token ∈ tokenize t) : tokenize token = [token] := by
  -- What has been read of a token brings the scanner from the beginning to where it stands.
  have hscan : ∀ (p : Place) (read : Text) {t : Text},
      (∀ x, tokenize (read.reverse ++ x) = scan p read x) → token ∈ scan p read t →
        tokenize token = [token] := by
    have hflush : ∀ {p : Place} {read : Text},
        (∀ x, tokenize (read.reverse ++ x) = scan p read x) → token ∈ flush read →
          tokenize token = [token] := by
      intro p read hread h
      have hall := hread []
      rw [List.append_nil, scan] at hall
      rw [mem_flush h, hall, flush, if_neg]
      rintro rfl
      exact absurd h (by simp [flush])
    intro p read t hread h
    fun_induction scan p read t with
    | case1 p read => exact hflush hread h
    | case2 read rest ih =>
        rcases List.mem_append.mp h with h | h
        · exact hflush hread h
        · exact ih (fun x => by rw [List.reverse_singleton, List.singleton_append, tokenize, scan,
            if_pos rfl, flush, if_pos rfl, List.nil_append]) h
    | case3 read c rest hopen ih =>
        refine ih (fun x => ?_) h
        rw [List.reverse_cons, List.append_assoc, hread, List.singleton_append, scan, if_neg hopen]
    | case4 depth read rest ih =>
        refine ih (fun x => ?_) h
        rw [List.reverse_cons, List.append_assoc, hread, List.singleton_append, scan_open]
    | case5 read rest _ ih =>
        rcases List.mem_cons.mp h with rfl | h
        · have hall := hread [closeBrace]
          rwa [scan_close_zero, ← List.reverse_cons, scan] at hall
        · exact ih (fun x => rfl) h
    | case6 read rest _ depth ih =>
        refine ih (fun x => ?_) h
        rw [List.reverse_cons, List.append_assoc, hread, List.singleton_append, scan_close_succ]
    | case7 depth read c rest hopen hclose ih =>
        refine ih (fun x => ?_) h
        rw [List.reverse_cons, List.append_assoc, hread, List.singleton_append,
          scan_char hopen hclose]
  exact hscan .outside [] (fun x => rfl) h

theorem ne_nil_of_mem_tokenize {t token : Text} (h : token ∈ tokenize t) : token ≠ [] := by
  rintro rfl
  exact absurd (tokenize_token h) (by simp)

/-- A text whose tokens end outside spans does so, too. -/
theorem level_flatten {tokens : List Text} (h : ∀ token ∈ tokens, level 0 token = 0) :
    level 0 tokens.flatten = 0 := by
  induction tokens with
  | nil => rfl
  | cons token tokens ih =>
      obtain ⟨htoken, htokens⟩ := List.forall_mem_cons.mp h
      rw [List.flatten_cons, level_append, htoken, ih htokens]

/-- All tokens but the last end outside spans. -/
theorem level_of_not_last {t : Text} {before after : List Text} (h : tokenize t = before ++ after)
    (hafter : after ≠ []) : ∀ token ∈ before, level 0 token = 0 := by
  have hscan : ∀ (p : Place) (read : Text) {t : Text} {before : List Text},
      level 0 read.reverse = p.level → scan p read t = before ++ after →
        ∀ token ∈ before, level 0 token = 0 := by
    intro p read t before hread h
    fun_induction scan p read t generalizing before with
    | case1 p read =>
        -- The last token is behind `before`.
        obtain rfl : before = [] := by
          rw [flush] at h
          split at h
          · exact (List.append_eq_nil_iff.mp h.symm).1
          · rcases List.append_eq_singleton_iff.mp h.symm with ⟨hnil, -⟩ | ⟨-, hnil⟩
            · exact hnil
            · exact absurd hnil hafter
        simp
    | case2 read rest ih =>
        have hflush : ∀ token ∈ flush read, level 0 token = 0 := by
          intro token htoken
          rw [mem_flush htoken, hread]
          rfl
        rcases List.append_eq_append_iff.mp h with ⟨tokens, rfl, hrest⟩ | ⟨tokens, hsplit, -⟩
        · intro token htoken
          rcases List.mem_append.mp htoken with htoken | htoken
          · exact hflush token htoken
          · exact ih rfl hrest token htoken
        · intro token htoken
          exact hflush token (by rw [hsplit]; exact List.mem_append_left _ htoken)
    | case3 read c rest hopen ih =>
        refine ih ?_ h
        rw [List.reverse_cons, level_append, hread]
        by_cases hclose : c = closeBrace
        · rw [hclose, level_close]
          rfl
        · exact level_char hopen hclose 0 []
    | case4 depth read rest ih =>
        refine ih ?_ h
        rw [List.reverse_cons, level_append, hread, level_open]
        rfl
    | case5 read rest _ ih =>
        have htoken : level 0 (closeBrace :: read).reverse = 0 := by
          rw [List.reverse_cons, level_append, hread, level_close]
          rfl
        rcases List.cons_eq_append_iff.mp h with ⟨rfl, -⟩ | ⟨tokens, rfl, hrest⟩
        · simp
        · exact List.forall_mem_cons.mpr ⟨htoken, ih rfl hrest⟩
    | case6 read rest _ depth ih =>
        refine ih ?_ h
        rw [List.reverse_cons, level_append, hread, level_close]
        rfl
    | case7 depth read c rest hopen hclose ih =>
        refine ih ?_ h
        rw [List.reverse_cons, level_append, hread, level_char hopen hclose]
        rfl
  exact hscan .outside [] rfl h

end HttpTemplates.Token
