import HttpTemplates.Template.Token

/-!
# Brace spans

What the tokenizer does with a text that is put together from literals and brace spans. A
**brace span** is a text between two braces in which every brace that opens is closed again and none
is closed that was not opened there (`IsSpan`).

* `scan_literal` — a text without an opening brace continues the current token;
* `scan_span` — a brace span ends the token in front of it and is a token of its own;
* `mem_tokenize` — a token begins with an opening brace or has none.
-/

namespace HttpTemplates.Token

/-! ### Depth -/

/-- How many braces are open behind a text, if `depth` of them are in front of it. There is no answer
if the text closes more braces than are open. -/
def descend : Nat → Text → Option Nat
  | depth, [] => some depth
  | depth, c :: rest =>
    if c = openBrace then descend (depth + 1) rest
    else if c = closeBrace then
      match depth with
      | 0 => none
      | depth + 1 => descend depth rest
    else descend depth rest

/-- The text stands between two braces that belong together. -/
def IsSpan (s : Text) : Prop :=
  ∃ body, s = openBrace :: body ++ [closeBrace] ∧ descend 0 body = some 0

@[simp] theorem descend_nil (depth : Nat) : descend depth [] = some depth := by
  rw [descend]

theorem closeBrace_ne_openBrace : closeBrace ≠ openBrace := by decide

theorem descend_open (depth : Nat) (rest : Text) :
    descend depth (openBrace :: rest) = descend (depth + 1) rest := by
  rw [descend.eq_def]
  exact if_pos rfl

theorem descend_close_succ (depth : Nat) (rest : Text) :
    descend (depth + 1) (closeBrace :: rest) = descend depth rest := by
  rw [descend, if_neg closeBrace_ne_openBrace, if_pos rfl]

theorem descend_close_zero (rest : Text) : descend 0 (closeBrace :: rest) = none := by
  rw [descend, if_neg closeBrace_ne_openBrace, if_pos rfl]

theorem descend_char {c : Char} (hopen : c ≠ openBrace) (hclose : c ≠ closeBrace) (depth : Nat)
    (rest : Text) : descend depth (c :: rest) = descend depth rest := by
  rw [descend.eq_def]
  simp only [if_neg hopen, if_neg hclose]

theorem descend_append (depth : Nat) (s t : Text) :
    descend depth (s ++ t) = (descend depth s).bind fun d => descend d t := by
  induction s generalizing depth with
  | nil => simp
  | cons c rest ih =>
      rw [List.cons_append]
      by_cases hopen : c = openBrace
      · subst hopen
        rw [descend_open, descend_open, ih]
      by_cases hclose : c = closeBrace
      · subst hclose
        cases depth with
        | zero => rw [descend_close_zero, descend_close_zero, Option.bind_none]
        | succ depth => rw [descend_close_succ, descend_close_succ, ih]
      rw [descend_char hopen hclose, descend_char hopen hclose, ih]

/-- Only braces count. -/
theorem descend_of_no_brace (depth : Nat) {t : Text}
    (h : ∀ c ∈ t, c ≠ openBrace ∧ c ≠ closeBrace) : descend depth t = some depth := by
  induction t with
  | nil => exact descend_nil depth
  | cons c rest ih =>
      obtain ⟨⟨hopen, hclose⟩, hrest⟩ := List.forall_mem_cons.mp h
      rw [descend_char hopen hclose, ih hrest]

/-- Whether a text is a brace span, as a test. -/
def isSpan (s : Text) : Bool :=
  s.head? == some openBrace && s.tail.getLast? == some closeBrace
    && descend 0 s.tail.dropLast == some 0

theorem isSpan_iff {s : Text} : isSpan s = true ↔ IsSpan s := by
  simp only [isSpan, Bool.and_eq_true, beq_iff_eq]
  constructor
  · rintro ⟨⟨hhead, hlast⟩, hbody⟩
    obtain ⟨rest, rfl⟩ := List.head?_eq_some_iff.mp hhead
    obtain ⟨body, hrest⟩ := List.getLast?_eq_some_iff.mp hlast
    rw [List.tail_cons] at hrest hbody
    subst hrest
    rw [List.dropLast_concat] at hbody
    exact ⟨body, rfl, hbody⟩
  · rintro ⟨body, rfl, hbody⟩
    simp [hbody]

/-! ### Scanning -/

theorem scan_open (depth : Nat) (read rest : Text) :
    scan (.inside depth) read (openBrace :: rest)
      = scan (.inside (depth + 1)) (openBrace :: read) rest := by
  rw [scan.eq_def]
  exact if_pos rfl

theorem scan_close_succ (depth : Nat) (read rest : Text) :
    scan (.inside (depth + 1)) read (closeBrace :: rest)
      = scan (.inside depth) (closeBrace :: read) rest := by
  rw [scan, if_neg closeBrace_ne_openBrace, if_pos rfl]

theorem scan_close_zero (read rest : Text) :
    scan (.inside 0) read (closeBrace :: rest)
      = (closeBrace :: read).reverse :: scan .outside [] rest := by
  rw [scan, if_neg closeBrace_ne_openBrace, if_pos rfl]

theorem scan_char {c : Char} (hopen : c ≠ openBrace) (hclose : c ≠ closeBrace) (depth : Nat)
    (read rest : Text) :
    scan (.inside depth) read (c :: rest) = scan (.inside depth) (c :: read) rest := by
  rw [scan.eq_def]
  simp only [if_neg hopen, if_neg hclose]

/-- A text without an opening brace continues the token outside spans. -/
theorem scan_literal {s : Text} (h : openBrace ∉ s) (read t : Text) :
    scan .outside read (s ++ t) = scan .outside (s.reverse ++ read) t := by
  induction s generalizing read with
  | nil => rfl
  | cons c rest ih =>
      simp only [List.mem_cons, not_or] at h
      rw [List.cons_append, scan, if_neg (Ne.symm h.1), ih h.2, List.reverse_cons,
        List.append_assoc, List.singleton_append]

/-- A text continues the token of a span as long as it does not close it. -/
theorem scan_inside {depth depth' : Nat} {s : Text} (h : descend depth s = some depth')
    (read t : Text) :
    scan (.inside depth) read (s ++ t) = scan (.inside depth') (s.reverse ++ read) t := by
  induction s generalizing depth read with
  | nil =>
      obtain rfl : depth = depth' := by simpa using h
      rfl
  | cons c rest ih =>
      rw [List.cons_append, List.reverse_cons, List.append_assoc, List.singleton_append]
      by_cases hopen : c = openBrace
      · subst hopen
        rw [descend_open] at h
        rw [scan_open, ih h]
      by_cases hclose : c = closeBrace
      · subst hclose
        cases depth with
        | zero => rw [descend_close_zero] at h; exact absurd h (by simp)
        | succ depth =>
            rw [descend_close_succ] at h
            rw [scan_close_succ, ih h]
      rw [descend_char hopen hclose] at h
      rw [scan_char hopen hclose, ih h]

/-- **A brace span is a token of its own.** -/
theorem scan_span {s : Text} (h : IsSpan s) (read t : Text) :
    scan .outside read (s ++ t) = flush read ++ s :: scan .outside [] t := by
  obtain ⟨body, rfl, hbody⟩ := h
  rw [List.append_assoc, List.cons_append, scan, if_pos rfl, scan_inside hbody,
    List.singleton_append, scan_close_zero]
  simp

theorem tokenize_span {s : Text} (h : IsSpan s) : tokenize s = [s] := by
  have := scan_span h [] []
  simpa [tokenize, flush, scan] using this

/-- A text without an opening brace is one token. -/
theorem tokenize_literal {t : Text} (h : openBrace ∉ t) : tokenize t = flush t.reverse := by
  have := scan_literal h [] []
  simpa [tokenize, scan] using this

/-- What has been read outside spans begins a token. -/
theorem scan_read {read : Text} (hread : read ≠ []) (t : Text) :
    ∃ s tokens, scan .outside read t = (read.reverse ++ s) :: tokens := by
  induction t generalizing read with
  | nil => exact ⟨[], [], by rw [scan, flush, if_neg hread, List.append_nil]⟩
  | cons c rest ih =>
      rw [scan]
      by_cases hc : c = openBrace
      · rw [if_pos hc, flush, if_neg hread]
        exact ⟨[], scan (.inside 0) [c] rest, by rw [List.append_nil]; rfl⟩
      · obtain ⟨s, tokens, h⟩ := ih (List.cons_ne_nil c read)
        refine ⟨c :: s, tokens, ?_⟩
        rw [if_neg hc, h, List.reverse_cons, List.append_assoc, List.singleton_append]

/-- The first token begins as the template does. -/
theorem tokenize_cons {c : Char} (hc : c ≠ openBrace) (t : Text) :
    ∃ s tokens, tokenize (c :: t) = (c :: s) :: tokens := by
  rw [tokenize, scan, if_neg hc]
  exact scan_read (List.cons_ne_nil c []) t

/-! ### Tokens -/

/-- What has been read of a token outside spans has no opening brace, and what has been read of a
span begins with one. -/
def Reads : Place → Text → Prop
  | .outside, read => openBrace ∉ read
  | .inside _, read => read.getLast? = some openBrace

theorem mem_flush {read token : Text} (h : token ∈ flush read) : token = read.reverse := by
  rw [flush] at h
  split at h
  · simp at h
  · exact List.mem_singleton.mp h

/-- A token begins with an opening brace or has none. -/
theorem mem_scan {p : Place} {read t token : Text} (hread : Reads p read)
    (h : token ∈ scan p read t) : token.head? = some openBrace ∨ openBrace ∉ token := by
  have hcons : ∀ {read : Text} {c : Char}, read.getLast? = some openBrace →
      (c :: read).getLast? = some openBrace := by
    intro read c hlast
    rw [List.getLast?_cons, hlast, Option.getD_some]
  have hstop : ∀ {p : Place} {read : Text}, Reads p read → token = read.reverse →
      token.head? = some openBrace ∨ openBrace ∉ token := by
    rintro p read hread rfl
    cases p with
    | outside => exact Or.inr fun hmem => hread (List.mem_reverse.mp hmem)
    | inside depth => exact Or.inl (by rw [List.head?_reverse]; exact hread)
  -- The cases of the scanner: wherever a token ends, `hstop` applies to what has been read of it.
  fun_induction scan p read t with
  | case1 p read => exact hstop hread (mem_flush h)
  | case2 read rest ih =>
      rcases List.mem_append.mp h with h | h
      · exact hstop hread (mem_flush h)
      · exact ih rfl h
  | case3 read c rest hne ih => exact ih (List.not_mem_cons_of_ne_of_not_mem (Ne.symm hne) hread) h
  | case4 depth read rest ih => exact ih (hcons hread) h
  | case5 read rest _ ih =>
      rcases List.mem_cons.mp h with h | h
      · exact hstop (p := .inside 0) (hcons hread) h
      · exact ih (by simp [Reads]) h
  | case6 read rest _ depth ih => exact ih (hcons hread) h
  | case7 depth read c rest _ _ ih => exact ih (hcons hread) h

/-- A token of a text begins with an opening brace or has none. -/
theorem mem_tokenize {t token : Text} (h : token ∈ tokenize t) :
    token.head? = some openBrace ∨ openBrace ∉ token :=
  mem_scan (p := .outside) (by simp [Reads]) h

end HttpTemplates.Token
