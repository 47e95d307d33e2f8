import HttpTemplates.Proofs.Percent.Disguise
import HttpTemplates.Proofs.Uri.Expressions

/-!
# Texts of whole expressions

A text is whole if each brace token in it is closed and stands for an expression (`Token.IsWhole`).
In UTF-8, in which every text has bytes, a whole text can be parsed, as a template
(`Template.exists_parse_of_isWhole`) and as a URI (`UriTemplate.exists_create_of_isWhole`), and it is
divided at the first question mark behind a whole path (`UriTemplate.queryDelimiter?_append_mark`).
-/

namespace HttpTemplates

/-! ### Encoding in UTF-8 -/

/-- In UTF-8 every text can be encoded. -/
theorem Percent.exists_encodeUnlessEncoded_utf8 (safe : Char → Bool) (t : Text) :
    ∃ w, encodeUnlessEncoded safe .utf8 t = .ok w :=
  exists_encodeUnlessEncoded safe fun u _ => Charset.canEncode_utf8 u

/-! ### Whole texts -/

namespace Token

variable {char : Char → Prop} {s t : Text}

/-- A closed brace span that stands for an expression. -/
def IsExpression (token : Text) : Prop :=
  IsSpan token ∧ ∃ e, Expression.parse token = .ok (some e)

instance : DecidablePred IsExpression := fun token =>
  decidable_of_iff (isSpan token = true ∧ (Expression.ofToken? token).isSome = true) <| by
    simp only [isSpan_iff, Option.isSome_iff_exists, Expression.ofToken?_eq_some_iff, IsExpression]

/-- Every brace token of the text is closed and stands for an expression, and every character outside
them satisfies `char`. -/
def IsWhole (char : Char → Prop) (t : Text) : Prop :=
  Consists IsExpression char t

instance [DecidablePred char] : Decidable (IsWhole char t) :=
  decidable_of_iff ((tokenize t).all (fun token =>
      (token.head? = some openBrace → IsExpression token) ∧
        (openBrace ∉ token → token.all (char ·) = true)) = true) <| by
    simp only [IsWhole, Consists, List.all_eq_true, decide_eq_true_eq]

theorem IsWhole.mono {char' : Char → Prop} (hchar : ∀ c, char c → char' c) (h : IsWhole char t) :
    IsWhole char' t :=
  fun token htoken => ⟨(h token htoken).1, fun hbrace c hc => hchar c ((h token htoken).2 hbrace c hc)⟩

theorem IsWhole.level_eq_zero (h : IsWhole char t) : level 0 t = 0 := by
  rw [← flatten_tokenize t]
  refine level_flatten fun token htoken => ?_
  rcases mem_tokenize htoken with hhead | hbrace
  · exact level_span ((h token htoken).1 hhead).1
  · exact level_literal hbrace

theorem isWhole_append (hs : level 0 s = 0) :
    IsWhole char (s ++ t) ↔ IsWhole char s ∧ IsWhole char t :=
  consists_append hs t

theorem IsWhole.append (hs : IsWhole char s) (ht : IsWhole char t) : IsWhole char (s ++ t) :=
  (isWhole_append hs.level_eq_zero).mpr ⟨hs, ht⟩

theorem isWhole_singleton {c : Char} (hc : c ≠ openBrace) (h : char c) : IsWhole char [c] :=
  (consists_literal (by simpa using Ne.symm hc)).mpr (by simpa using h)

theorem IsWhole.cons {c : Char} (hc : c ≠ openBrace) (h : char c) (ht : IsWhole char t) :
    IsWhole char (c :: t) :=
  (isWhole_singleton hc h).append ht

theorem expressionsIn_cons {c : Char} (hc : c ≠ openBrace) (t : Text) :
    expressionsIn (c :: t) = expressionsIn t := by
  have hbrace : openBrace ∉ [c] := by simpa using Ne.symm hc
  rw [← List.singleton_append, expressionsIn_append (level_literal hbrace),
    expressionsIn_literal hbrace, List.nil_append]

section Placeholder

open Expression (IsPlainName placeholder named)

variable {x : Text} (h : IsPlainName x)

include h

theorem isWhole_placeholder (char : Char → Prop) : IsWhole char (placeholder x) := by
  have hspan : IsSpan (placeholder x) := Expression.isSpan_placeholder h
  intro token htoken
  rw [tokenize_span hspan, List.mem_singleton] at htoken
  subst htoken
  refine ⟨fun _ => ⟨hspan, _, Expression.parse_placeholder h⟩, fun hbrace => ?_⟩
  exact absurd (by simp [placeholder]) hbrace

theorem expressionsIn_placeholder : expressionsIn (placeholder x) = [named x h.ne_nil] := by
  rw [expressionsIn, tokenize_span (Expression.isSpan_placeholder h)]
  simp [Expression.ofToken?_of_parse (Expression.parse_placeholder h)]

end Placeholder

/-- A joined list of whole texts is whole, and holds the expressions in them. -/
theorem isWhole_intercalate {c : Char} (hc : c ≠ openBrace) (hchar : char c) {ts : List Text}
    (h : ∀ t ∈ ts, IsWhole char t) : IsWhole char ([c].intercalate ts) ∧
      expressionsIn ([c].intercalate ts) = ts.flatMap expressionsIn := by
  induction ts with
  | nil => exact ⟨by simp [IsWhole, Consists], by simp⟩
  | cons t ts ih =>
      obtain ⟨ht, hts⟩ := List.forall_mem_cons.mp h
      obtain ⟨hwhole, hexpressions⟩ := ih hts
      cases ts with
      | nil => simpa using ht
      | cons u us =>
          rw [List.intercalate_cons_cons, List.append_assoc, List.singleton_append]
          refine ⟨ht.append (hwhole.cons hc hchar), ?_⟩
          rw [expressionsIn_append ht.level_eq_zero, expressionsIn_cons hc, hexpressions]
          rfl

/-- Reading a token of a whole text does not fail. -/
theorem IsWhole.exists_parse (h : IsWhole char t) {token : Text} (htoken : token ∈ tokenize t) :
    ∃ parsed, Expression.parse token = .ok parsed := by
  rcases mem_tokenize htoken with hhead | hbrace
  · obtain ⟨e, he⟩ := ((h token htoken).1 hhead).2
    exact ⟨some e, he⟩
  · exact ⟨none, Expression.parse_of_head fun hhead => hbrace (List.mem_of_head? hhead)⟩

end Token

open Token (IsWhole tokenize expressionsIn level openBrace)

variable {char : Char → Prop}

/-! ### Parsing -/

namespace Template

theorem exists_chunksOfTokens {encodeLiteral : Text → Except Error Text}
    (hencode : ∀ s, ∃ w, encodeLiteral s = .ok w) {tokens : List Text}
    (h : ∀ token ∈ tokens, ∃ parsed, Expression.parse token = .ok parsed) :
    ∃ cs, chunksOfTokens encodeLiteral tokens = .ok cs := by
  induction tokens with
  | nil => exact ⟨[], rfl⟩
  | cons token tokens ih =>
      obtain ⟨⟨parsed, hparsed⟩, htokens⟩ := List.forall_mem_cons.mp h
      obtain ⟨cs, hcs⟩ := ih htokens
      obtain ⟨head, hhead⟩ : ∃ head, chunksOfToken encodeLiteral token = .ok head := by
        obtain ⟨w, hw⟩ := hencode token
        cases parsed with
        | some e => exact ⟨[.expression e], by rw [chunksOfToken, hparsed]; rfl⟩
        | none =>
            refine ⟨(Chunk.literal? w).toList, ?_⟩
            simp only [chunksOfToken, hparsed, hw, bind_ok]
      exact ⟨head ++ cs, by rw [chunksOfTokens, hhead, hcs]; rfl⟩

theorem exists_parseFragment_of_isWhole (safe : Char → Bool) {t : Text} (h : IsWhole char t) :
    ∃ cs, parseFragment (Percent.encodeUnlessEncoded safe .utf8) t = .ok cs :=
  exists_chunksOfTokens (Percent.exists_encodeUnlessEncoded_utf8 safe) fun _ => h.exists_parse

/-- A whole text can be parsed. -/
theorem exists_parse_of_isWhole {t : Text} (h : IsWhole char t) (keep slash : Bool) :
    ∃ b, parse t ⟨keep, true, slash, .utf8⟩ = .ok b ∧ b.source = t := by
  obtain ⟨cs, hcs⟩ := exists_parseFragment_of_isWhole Percent.isReserved h
  exact ⟨⟨t, Settings.normalize ⟨keep, true, slash, .utf8⟩, cs⟩, by
    rw [parse]
    exact bind_eq_ok_iff.mpr ⟨cs, hcs, rfl⟩, rfl⟩

end Template

namespace UriTemplate

theorem exists_findDelimiter {tokens : List Text}
    (h : ∀ token ∈ tokens, ∃ parsed, Expression.parse token = .ok parsed) (offset : Nat) :
    ∃ i, findDelimiter offset tokens = .ok i := by
  induction tokens generalizing offset with
  | nil => exact ⟨none, rfl⟩
  | cons token tokens ih =>
      obtain ⟨⟨parsed, hparsed⟩, htokens⟩ := List.forall_mem_cons.mp h
      rw [findDelimiter, hparsed, bind_ok]
      split
      · exact ih htokens _
      · exact ⟨_, rfl⟩

/-- A whole text can be parsed as a URI, which then has the expressions in the text. -/
theorem exists_create_of_isWhole {t : Text} (h : IsWhole char t) (encodeSlash : Bool) :
    ∃ u, create t .utf8 encodeSlash = .ok u ∧ u.base.expressions = expressionsIn t := by
  obtain ⟨delimiter, hdelimiter⟩ : ∃ i, queryDelimiter? t = .ok i :=
    exists_findDelimiter (fun _ => h.exists_parse) 0
  cases delimiter with
  | none =>
      obtain ⟨cs, hcs⟩ := Template.exists_parseFragment_of_isWhole Percent.isPathSafe h
      have hchunks : parseChunks .utf8 t = .ok cs := by
        rw [parseChunks, hdelimiter]
        exact hcs
      exact ⟨⟨⟨t, settings .utf8 encodeSlash, cs⟩⟩, bind_eq_ok_iff.mpr ⟨cs, hchunks, rfl⟩,
        Template.expressions_parseFragment hcs⟩
  | some i =>
      -- The text is cut in a literal, so both parts are whole.
      obtain ⟨before, p, q, after, -, htokens, hdivided, htake, hdrop⟩ :=
        exists_of_queryDelimiter hdelimiter
      have hliteral : openBrace ∉ p ++ '?' :: q := by
        have hmem : p ++ '?' :: q ∈ tokenize t := by simp [htokens]
        refine (Token.mem_tokenize hmem).resolve_left fun hhead => ?_
        obtain ⟨-, e, he⟩ := (h _ hmem).1 hhead
        have hnone := ofToken?_of_divided hdivided
        rw [Expression.ofToken?_eq_some_iff.mpr he] at hnone
        exact absurd hnone (by simp)
      have htext : (before.flatten ++ p) ++ ('?' :: q ++ after.flatten) = t := by
        rw [← htake, ← hdrop, List.take_append_drop]
      have hlevel : level 0 (before.flatten ++ p) = 0 := by
        rw [Token.level_append, Token.level_flatten
          (Token.level_of_not_last htokens (List.cons_ne_nil _ _))]
        exact Token.level_literal fun hmem => hliteral (List.mem_append_left _ hmem)
      obtain ⟨hleft, hright⟩ := (Token.isWhole_append hlevel).mp (htext.symm ▸ h)
      obtain ⟨cs, hcs⟩ := Template.exists_parseFragment_of_isWhole Percent.isPathSafe hleft
      obtain ⟨ds, hds⟩ := Template.exists_parseFragment_of_isWhole Percent.isQuerySafe hright
      have hpath : Template.parseFragment (Percent.pathEncode .utf8) (before.flatten ++ p) = .ok cs :=
        hcs
      have hquery : Template.parseFragment (Percent.queryEncode .utf8) ('?' :: q ++ after.flatten)
          = .ok ds := hds
      have hchunks : parseChunks .utf8 t = .ok (cs ++ ds) := by
        rw [parseChunks, hdelimiter, bind_ok]
        simp only [htake, hdrop, hpath, hquery, bind_ok]
      refine ⟨⟨⟨t, settings .utf8 encodeSlash, cs ++ ds⟩⟩, bind_eq_ok_iff.mpr ⟨_, hchunks, rfl⟩, ?_⟩
      have hexpressions : (cs ++ ds).filterMap Chunk.expression? = expressionsIn t := by
        rw [List.filterMap_append, Template.expressions_parseFragment hcs,
          Template.expressions_parseFragment hds, ← Token.expressionsIn_append hlevel, htext]
      exact hexpressions

/-! ### Finding the division -/

/-- Tokens that are not divided are passed over. -/
theorem findDelimiter_append {tokens : List Text}
    (h : ∀ token ∈ tokens, (∃ parsed, Expression.parse token = .ok parsed) ∧
      isDivided token = false) (offset : Nat) (rest : List Text) :
    findDelimiter offset (tokens ++ rest) = findDelimiter (offset + tokens.flatten.length) rest := by
  induction tokens generalizing offset with
  | nil => rfl
  | cons token tokens ih =>
      obtain ⟨⟨⟨parsed, hparsed⟩, hdivided⟩, htokens⟩ := List.forall_mem_cons.mp h
      have hcond : (parsed.isSome || !token.contains '?') = true := by
        rw [isDivided, Expression.ofToken?_of_parse hparsed] at hdivided
        cases parsed with
        | some e => rfl
        | none => simpa using hdivided
      rw [List.cons_append, findDelimiter, hparsed, bind_ok, if_pos hcond, ih htokens,
        List.flatten_cons, List.length_append, Nat.add_assoc]

/-- A token of a whole path is not divided. -/
theorem isDivided_of_isWhole {p token : Text} (hp : IsWhole (· ≠ '?') p)
    (htoken : token ∈ tokenize p) : isDivided token = false := by
  rcases Token.mem_tokenize htoken with hhead | hbrace
  · obtain ⟨-, e, he⟩ := (hp token htoken).1 hhead
    simp [isDivided, Expression.ofToken?_eq_some_iff.mpr he]
  · have hmark : '?' ∉ token := fun hmem => (hp token htoken).2 hbrace '?' hmem rfl
    simp [isDivided, hmark]

/-- **A URI is divided at the first question mark behind a whole path.** -/
theorem queryDelimiter?_append_mark {p : Text} (hp : IsWhole (· ≠ '?') p) (q : Text) :
    queryDelimiter? (p ++ '?' :: q) = .ok (some p.length) := by
  obtain ⟨tokens, lit, hlit, hscan⟩ :=
    Token.exists_scan_append (p := .outside) List.not_mem_nil hp.level_eq_zero
  obtain ⟨front, back, hfront, hmark⟩ := Token.exists_scan_literal q
  have hpath : tokenize p = tokens ++ Token.flush lit := by
    have := hscan []
    rwa [List.append_nil] at this
  -- The question mark goes on with the literal at the end of the path.
  have hall : tokenize (p ++ '?' :: q) = tokens ++ (lit.reverse ++ '?' :: front) :: back := by
    have hmore := hmark ('?' :: lit)
    rw [Token.flush, if_neg (by simp)] at hmore
    rw [tokenize, hscan, Token.scan, if_neg (by decide), hmore]
    simp
  have hlast : '?' ∉ lit.reverse := by
    intro hmem
    have htoken : lit.reverse ∈ tokenize p := by
      rw [hpath, Token.flush, if_neg (by rintro rfl; exact absurd hmem (by simp))]
      simp
    exact (hp _ htoken).2 (by simpa using hlit) '?' hmem rfl
  have hnone : Expression.parse (lit.reverse ++ '?' :: front) = .ok none := by
    refine Expression.parse_of_head fun hhead => ?_
    have hmem := List.mem_of_head? hhead
    simp only [List.mem_append, List.mem_reverse, List.mem_cons] at hmem
    rcases hmem with hmem | hmem | hmem
    · exact hlit hmem
    · exact absurd hmem (by decide)
    · exact hfront hmem
  have hlength : p.length = tokens.flatten.length + lit.reverse.length := by
    rw [← List.length_append, ← Token.flatten_flush, ← List.flatten_append, ← hpath,
      Token.flatten_tokenize]
  rw [queryDelimiter?, hall, findDelimiter_append fun token htoken => by
    have hmem : token ∈ tokenize p := by
      rw [hpath]
      exact List.mem_append_left _ htoken
    exact ⟨hp.exists_parse hmem, isDivided_of_isWhole hp hmem⟩]
  rw [findDelimiter, hnone, bind_ok, if_neg (by simp), List.idxOf_append, if_neg hlast,
    List.idxOf_cons_self, hlength]
  simp

end UriTemplate

end HttpTemplates
