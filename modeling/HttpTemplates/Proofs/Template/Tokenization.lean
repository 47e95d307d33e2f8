import HttpTemplates.Proofs.Template.Seam
import Mathlib.Data.List.Chain

/-!
# What the tokens of a text are

A description of the tokens of a text that does not say how they are found. It counts braces: the
**depth** of a text is the number of braces that it opens less the number of those that it closes.
A span is a text whose depth is positive until it ends, where it is zero; the last token may also be
one whose depth stays positive to the end of the text. Every other token opens no brace, and no two
such tokens stand side by side (`IsTokenization`).

**The tokens of a text are the only list that answers this description**
(`isTokenization_iff_eq_tokenize`). Depths are brought together with the counter of the scanner in
`descend_eq_some_iff`.
-/

namespace HttpTemplates.Token

/-! ### Depth -/

/-- What a character adds to the depth. -/
def weight (c : Char) : Int :=
  if c = openBrace then 1 else if c = closeBrace then -1 else 0

/-- The number of braces that a text opens less the number of those that it closes. -/
def depth : Text → Int
  | [] => 0
  | c :: rest => weight c + depth rest

@[simp] theorem weight_open : weight openBrace = 1 := rfl

@[simp] theorem weight_close : weight closeBrace = -1 := rfl

theorem weight_char {c : Char} (hopen : c ≠ openBrace) (hclose : c ≠ closeBrace) :
    weight c = 0 := by
  rw [weight, if_neg hopen, if_neg hclose]

@[simp] theorem depth_nil : depth [] = 0 := rfl

@[simp] theorem depth_cons (c : Char) (t : Text) : depth (c :: t) = weight c + depth t := rfl

@[simp] theorem depth_append (s t : Text) : depth (s ++ t) = depth s + depth t := by
  induction s with
  | nil => simp
  | cons c rest ih => simp only [List.cons_append, depth_cons, ih, Int.add_assoc]

/-- Only a closing brace takes the depth down, and by one. -/
theorem weight_cases (c : Char) : c = closeBrace ∧ weight c = -1 ∨ 0 ≤ weight c := by
  by_cases hopen : c = openBrace
  · subst hopen
    exact Or.inr (by decide)
  by_cases hclose : c = closeBrace
  · subst hclose
    exact Or.inl ⟨rfl, rfl⟩
  · exact Or.inr (Int.le_of_eq (weight_char hopen hclose).symm)

theorem forall_prefix_cons {P : Text → Prop} {c : Char} {t : Text} :
    (∀ p, p <+: c :: t → P p) ↔ P [] ∧ ∀ p, p <+: t → P (c :: p) := by
  simp only [List.prefix_cons_iff]
  constructor
  · intro h
    exact ⟨h [] (Or.inl rfl), fun p hp => h (c :: p) (Or.inr ⟨p, rfl, hp⟩)⟩
  · rintro ⟨hnil, hcons⟩ p (rfl | ⟨q, rfl, hq⟩)
    · exact hnil
    · exact hcons q hq

/-- The counter of the scanner adds up the weights, and stops where they would take it below
zero. -/
theorem descend_cons (n : Nat) (c : Char) (t : Text) : descend n (c :: t)
    = if 0 ≤ n + weight c then descend (n + weight c).toNat t else none := by
  by_cases hopen : c = openBrace
  · subst hopen
    rw [descend_open, weight_open, if_pos (by omega)]
    rfl
  by_cases hclose : c = closeBrace
  · subst hclose
    rw [weight_close]
    cases n with
    | zero => rw [descend_close_zero, if_neg (by decide)]
    | succ n =>
        rw [descend_close_succ, if_pos (by omega)]
        congr 1
        omega
  · rw [descend_char hopen hclose, weight_char hopen hclose, if_pos (by omega)]
    congr 1

/-- **The scanner counts depths.** It comes to the end of a text if and only if no beginning of the
text takes the depth below zero. -/
theorem descend_eq_some_iff {n m : Nat} {t : Text} :
    descend n t = some m ↔ (m : Int) = n + depth t ∧ ∀ p, p <+: t → 0 ≤ n + depth p := by
  induction t generalizing n with
  | nil =>
      simp only [descend_nil, Option.some.injEq, List.prefix_nil, forall_eq, depth_nil]
      omega
  | cons c t ih =>
      rw [descend_cons, forall_prefix_cons]
      by_cases hstep : 0 ≤ n + weight c
      · rw [if_pos hstep, ih, Int.toNat_of_nonneg hstep]
        simp only [depth_cons, depth_nil, Int.add_assoc]
        have hnil : 0 ≤ (n : Int) + 0 := by omega
        simp only [hnil, true_and]
      · rw [if_neg hstep]
        have hfirst := fun h : ∀ p, p <+: t → 0 ≤ n + depth (c :: p) => h [] List.nil_prefix
        simp only [depth_cons, depth_nil, Int.add_zero] at hfirst
        constructor
        · intro h
          exact absurd h (by simp)
        · rintro ⟨-, -, h⟩
          exact absurd (hfirst h) hstep

/-! ### Spans -/

/-- The depth is positive inside the text and zero at its end. -/
structure IsClosed (s : Text) : Prop where
  pos : ∀ p, p <+: s → p ≠ [] → p ≠ s → 0 < depth p
  zero : depth s = 0

/-- The depth is positive inside the text and at its end. -/
def IsOpen (s : Text) : Prop :=
  ∀ p, p <+: s → p ≠ [] → 0 < depth p

/-- A text is a brace span if and only if it opens a brace and closes it at its end. -/
theorem isSpan_iff_isClosed {s : Text} (hhead : s.head? = some openBrace) :
    IsSpan s ↔ IsClosed s := by
  constructor
  · rintro ⟨body, rfl, hbody⟩
    obtain ⟨hzero, hpos⟩ := descend_eq_some_iff.mp hbody
    refine ⟨fun p hp hne hend => ?_, ?_⟩
    · -- A proper beginning does not reach the last brace.
      obtain ⟨q, rfl, hq⟩ := (List.prefix_cons_iff.mp
        ((List.prefix_concat_iff.mp hp).resolve_left hend)).resolve_left hne
      have hinner := hpos q hq
      rw [depth_cons, weight_open]
      omega
    · simp only [List.cons_append, depth_cons, depth_append, weight_open, weight_close, depth_nil]
      omega
  · rintro ⟨hpos, hzero⟩
    obtain ⟨rest, rfl⟩ := List.head?_eq_some_iff.mp hhead
    rcases List.eq_nil_or_concat' rest with rfl | ⟨body, last, rfl⟩
    · exact absurd hzero (by decide)
    have hbody : ∀ p, p <+: body → 0 ≤ depth p := by
      intro p hp
      have hproper : openBrace :: p ≠ openBrace :: (body ++ [last]) := by
        intro heq
        have hlength := congrArg List.length heq
        have hle := hp.length_le
        simp only [List.length_cons, List.length_append, List.length_nil] at hlength
        omega
      have hinner := hpos (openBrace :: p)
        (List.cons_prefix_cons.mpr ⟨rfl, hp.trans (List.prefix_append _ _)⟩)
        (List.cons_ne_nil _ _) hproper
      rw [depth_cons, weight_open] at hinner
      omega
    -- In front of the last character the depth is positive, so that it has to be a closing brace.
    have hend := hbody body (List.prefix_refl _)
    simp only [depth_cons, depth_append, weight_open, depth_nil] at hzero
    rcases weight_cases last with ⟨rfl, -⟩ | hweight
    · rw [weight_close] at hzero
      exact ⟨body, rfl, descend_eq_some_iff.mpr ⟨by omega, by simpa using hbody⟩⟩
    · omega

/-- A text whose first brace is never closed is read to its end inside a span. -/
theorem isOpen_iff_descend {body : Text} :
    IsOpen (openBrace :: body) ↔ ∃ d, descend 0 body = some d := by
  simp only [descend_eq_some_iff]
  constructor
  · intro h
    have hbody : ∀ p, p <+: body → 0 ≤ depth p := by
      intro p hp
      have hinner := h (openBrace :: p) (List.cons_prefix_cons.mpr ⟨rfl, hp⟩)
        (List.cons_ne_nil _ _)
      rw [depth_cons, weight_open] at hinner
      omega
    have hend := hbody body (List.prefix_refl _)
    exact ⟨(depth body).toNat, by rw [Int.toNat_of_nonneg hend]; simp, by simpa using hbody⟩
  · rintro ⟨d, -, hpos⟩ p hp hne
    obtain ⟨q, rfl, hq⟩ := (List.prefix_cons_iff.mp hp).resolve_left hne
    have hinner := hpos q hq
    rw [depth_cons, weight_open]
    omega

/-- Where the scanner comes to the end of a span, the first brace is closed. -/
theorem exists_close_of_descend_none {n : Nat} {t : Text} (h : descend n t = none) :
    ∃ inner rest, t = inner ++ closeBrace :: rest ∧ descend n inner = some 0 := by
  induction t generalizing n with
  | nil => exact absurd h (by simp)
  | cons c t ih =>
      rw [descend_cons] at h
      split at h
      · next hstep =>
          obtain ⟨inner, rest, rfl, hinner⟩ := ih h
          exact ⟨c :: inner, rest, rfl, by rw [descend_cons, if_pos hstep, hinner]⟩
      · next hstep =>
          rcases weight_cases c with ⟨rfl, hweight⟩ | hweight
          · obtain rfl : n = 0 := by omega
            exact ⟨[], t, rfl, descend_nil 0⟩
          · exact absurd (by omega) hstep

/-! ### Tokens -/

/-- One of the two texts opens a brace in front. -/
def Apart (a b : Text) : Prop :=
  a.head? = some openBrace ∨ b.head? = some openBrace

/-- The texts are the tokens of the text: put together they are the text, none is empty, of two that
stand side by side at least one opens a brace in front, and each one either opens no brace at all or
opens one in front, which it closes at its end; the last one need not close it. -/
structure IsTokenization (t : Text) (tokens : List Text) : Prop where
  flatten : tokens.flatten = t
  ne_nil : ∀ s ∈ tokens, s ≠ []
  apart : tokens.IsChain Apart
  literal : ∀ s ∈ tokens, s.head? ≠ some openBrace → openBrace ∉ s
  span : ∀ front s back, tokens = front ++ s :: back → s.head? = some openBrace →
    IsClosed s ∨ back = [] ∧ IsOpen s

theorem IsTokenization.tail {t s : Text} {tokens : List Text}
    (h : IsTokenization t (s :: tokens)) : IsTokenization tokens.flatten tokens where
  flatten := rfl
  ne_nil := fun r hr => h.ne_nil r (List.mem_cons_of_mem _ hr)
  apart := h.apart.tail
  literal := fun r hr => h.literal r (List.mem_cons_of_mem _ hr)
  span := fun front r back hsplit => h.span (s :: front) r back (by rw [hsplit, List.cons_append])

/-- The scanner finds the tokens of a text again. It may have read a literal in front of them, if a
span follows. -/
theorem scan_of_isTokenization {t : Text} {tokens : List Text} (h : IsTokenization t tokens)
    {read : Text} (hread : read = [] ∨ ∀ s ∈ tokens.head?, s.head? = some openBrace) :
    scan .outside read t = flush read ++ tokens := by
  induction tokens generalizing t read with
  | nil =>
      obtain rfl : [] = t := h.flatten
      rw [scan, List.append_nil]
  | cons s tokens ih =>
      obtain rfl : s ++ tokens.flatten = t := h.flatten
      have hne := h.ne_nil s (List.mem_cons_self ..)
      by_cases hhead : s.head? = some openBrace
      · rcases h.span [] s tokens rfl hhead with hclosed | ⟨rfl, hopen⟩
        · rw [scan_span ((isSpan_iff_isClosed hhead).mpr hclosed), ih h.tail (Or.inl rfl)]
          rfl
        · obtain ⟨body, rfl⟩ := List.head?_eq_some_iff.mp hhead
          obtain ⟨d, hd⟩ := isOpen_iff_descend.mp hopen
          rw [List.cons_append, scan, if_pos rfl, scan_inside hd, List.flatten_nil, scan, flush,
            flush]
          simp
      · -- A literal is what the scanner has read in front of the next span.
        have hliteral := h.literal s (List.mem_cons_self ..) hhead
        obtain rfl : read = [] := hread.resolve_right fun hs => hhead (hs s rfl)
        have hnext : ∀ r ∈ tokens.head?, r.head? = some openBrace := fun r hr =>
          ((List.isChain_cons.mp h.apart).1 r hr).resolve_left hhead
        rw [scan_literal hliteral, List.append_nil, ih h.tail (Or.inr hnext), flush, if_neg (by simpa),
          List.reverse_reverse]
        rfl

/-- The first token that is read inside a span is that span. -/
theorem head_scan_inside {depth : Nat} {read t s : Text} (hread : Reads (.inside depth) read)
    (h : s ∈ (scan (.inside depth) read t).head?) : s.head? = some openBrace := by
  have hlast : ∀ {read : Text}, Reads (.inside 0) read → read.reverse.head? = some openBrace :=
    fun hread => by rw [List.head?_reverse]; exact hread
  induction t generalizing depth read with
  | nil =>
      rw [scan] at h
      rw [mem_flush (List.mem_of_mem_head? h)]
      exact hlast hread
  | cons c t ih =>
      by_cases hopen : c = openBrace
      · subst hopen
        rw [scan_open] at h
        exact ih (reads_cons hread _ _) h
      by_cases hclose : c = closeBrace
      · subst hclose
        cases depth with
        | zero =>
            rw [scan_close_zero] at h
            obtain rfl : (closeBrace :: read).reverse = s := Option.some.inj h
            exact hlast (reads_cons hread _ _)
        | succ depth =>
            rw [scan_close_succ] at h
            exact ih (reads_cons hread _ _) h
      rw [scan_char hopen hclose] at h
      exact ih (reads_cons hread _ _) h

theorem isChain_flush (read : Text) : (flush read).IsChain Apart := by
  rw [flush]
  split
  · exact List.isChain_nil
  · exact List.isChain_singleton _

/-- Two literals never stand side by side: the scanner ends one only where a span begins. -/
theorem isChain_scan {p : Place} {read t : Text} (hread : Reads p read) :
    (scan p read t).IsChain Apart := by
  fun_induction scan p read t with
  | case1 p read => exact isChain_flush read
  | case2 read rest ih =>
      have hbegun : Reads (.inside 0) [openBrace] := rfl
      exact (isChain_flush read).append (ih hbegun) fun a _ b hb =>
        Or.inr (head_scan_inside hbegun hb)
  | case3 read c rest hopen ih =>
      exact ih (List.not_mem_cons_of_ne_of_not_mem (Ne.symm hopen) hread)
  | case4 depth read rest ih => exact ih (reads_cons hread _ _)
  | case5 read rest _ ih =>
      have hhead : (closeBrace :: read).reverse.head? = some openBrace := by
        rw [List.head?_reverse]
        exact reads_cons hread closeBrace 0
      exact (ih List.not_mem_nil).cons fun b _ => Or.inl hhead
  | case6 read rest _ depth ih => exact ih (reads_cons hread _ _)
  | case7 depth read c rest _ _ ih => exact ih (reads_cons hread _ _)

/-- A token that opens a brace in front closes it at its end, unless it is the last one. -/
theorem span_of_tokenize {t s : Text} {front back : List Text}
    (h : tokenize t = front ++ s :: back) (hhead : s.head? = some openBrace) :
    IsClosed s ∨ back = [] ∧ IsOpen s := by
  obtain ⟨body, rfl⟩ := List.head?_eq_some_iff.mp hhead
  have hself : tokenize (openBrace :: body) = [openBrace :: body] :=
    tokenize_token (t := t) (by rw [h]; simp)
  cases hbody : descend 0 body with
  | none =>
      -- The span that is closed first is the whole token.
      obtain ⟨inner, rest, rfl, hinner⟩ := exists_close_of_descend_none hbody
      have hspan : IsSpan (openBrace :: inner ++ [closeBrace]) := ⟨inner, rfl, hinner⟩
      have hwhole : openBrace :: (inner ++ closeBrace :: rest)
          = (openBrace :: inner ++ [closeBrace]) ++ rest := by simp
      rw [hwhole, tokenize, scan_span hspan] at hself
      obtain ⟨htoken, -⟩ := List.cons.inj hself
      rw [hwhole, ← htoken]
      exact Or.inl ((isSpan_iff_isClosed rfl).mp hspan)
  | some d =>
      refine Or.inr ⟨?_, isOpen_iff_descend.mpr ⟨d, hbody⟩⟩
      by_contra hback
      have hsplit : tokenize t = (front ++ [openBrace :: body]) ++ back := by
        rw [h, List.append_assoc, List.singleton_append]
      have hlevel := level_of_not_last hsplit hback (openBrace :: body) (by simp)
      rw [level_open, level_of_descend hbody] at hlevel
      omega

/-- **The tokens of a text are the only list that answers their description.** -/
theorem isTokenization_iff_eq_tokenize {t : Text} {tokens : List Text} :
    IsTokenization t tokens ↔ tokens = tokenize t := by
  constructor
  · intro h
    exact (scan_of_isTokenization h (Or.inl rfl)).symm
  · rintro rfl
    exact {
      flatten := flatten_tokenize t
      ne_nil := fun s hs => ne_nil_of_mem_tokenize hs
      apart := isChain_scan (p := .outside) List.not_mem_nil
      literal := fun s hs hhead => (mem_tokenize hs).resolve_left hhead
      span := fun front s back hsplit hhead => span_of_tokenize hsplit hhead }

end HttpTemplates.Token
