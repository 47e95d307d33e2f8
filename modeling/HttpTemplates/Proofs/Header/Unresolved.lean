import HttpTemplates.Proofs.Header.Expansion
import HttpTemplates.Proofs.Query.Elements
import HttpTemplates.Proofs.Uri.WholeText
import Mathlib.Data.List.Nodup

/-!
# Header values without a value

The values of a header are joined with commas before the variables are filled in, and a variable
without a value leaves the commas around it. Only those at the end are dropped. So **the values behind
the last one that is bound leave no trace, and each of the others that are not bound leaves an empty
element** (`HeaderTemplate.expand_placeholders`): the bound values alone are sent exactly if no
variable without a value stands in front of one with a value.
-/

namespace HttpTemplates

open BodyTemplate (boundText tokensText)
open Template (decodeSlashes slashEscape)
open Token (openBrace closeBrace expressionsIn IsWhole)
open Expression (IsPlainName placeholder named)

/-! ### Joined texts without empty ones -/

namespace Text

/-- What is left holds no element that would be dropped at the end if no such element stands in front
of another one. -/
theorem forall_rdropWhile_iff {α : Type} {p : α → Bool} {l : List α} :
    (∀ a ∈ l.rdropWhile p, p a = false) ↔ l.Pairwise fun a b => p a = true → p b = true := by
  induction l using List.reverseRecOn with
  | nil => simp
  | append_singleton l b ih =>
      rw [List.pairwise_append]
      cases hb : p b with
      | true =>
          rw [List.rdropWhile_concat_pos _ _ _ hb, ih]
          simp [hb]
      | false =>
          rw [List.rdropWhile_concat_neg _ _ _ (by simp [hb])]
          simp only [List.forall_mem_append, List.forall_mem_singleton, hb, and_true,
            List.pairwise_singleton, true_and, Bool.false_eq_true, imp_false, Bool.not_eq_true]
          constructor
          · intro hall
            refine ⟨List.pairwise_of_forall_mem_list fun a ha b _ h => ?_, fun a ha => ?_⟩
            · rw [hall a ha] at h
              exact absurd h (by simp)
            · simpa using hall a ha
          · rintro ⟨-, hall⟩ a ha
            simpa using hall a ha

/-- Dropping the empty texts at the end drops no other ones. -/
theorem filter_rdropWhile (ps : List Text) :
    (ps.rdropWhile (· = [])).filter (· ≠ []) = ps.filter (· ≠ []) := by
  have hsplit : ps.rdropWhile (· = []) ++ ps.rtakeWhile (· = []) = ps :=
    List.rdropWhile_append_rtakeWhile
  have hdropped : (ps.rtakeWhile (· = [])).filter (· ≠ []) = [] := by
    refine List.filter_eq_nil_iff.mpr fun t ht => ?_
    have hempty := List.mem_rtakeWhile_imp ht
    simpa using hempty
  conv_rhs => rw [← hsplit, List.filter_append, hdropped, List.append_nil]

/-- A text that is joined of others without commas has a comma for each of them but the first. -/
theorem count_intercalate {ps : List Text} (h : ∀ p ∈ ps, ',' ∉ p) :
    ([',', ' '].intercalate ps).count ',' = ps.length - 1 := by
  induction ps with
  | nil => rfl
  | cons p ps ih =>
      obtain ⟨hp, hps⟩ := List.forall_mem_cons.mp h
      cases ps with
      | nil => simpa [List.count_eq_zero] using hp
      | cons q qs =>
          have hrest := ih hps
          simp only [List.length_cons] at hrest
          simp [List.intercalate_cons_cons, List.count_eq_zero.mpr hp, hrest]

/-- Without the empty texts at the end, texts without commas are joined to the same as without any
empty text if no empty text stands in front of another one. -/
theorem intercalate_rdropWhile_eq_iff {ps : List Text} (h : ∀ p ∈ ps, ',' ∉ p) :
    [',', ' '].intercalate (ps.rdropWhile (· = [])) = [',', ' '].intercalate (ps.filter (· ≠ [])) ↔
      ps.Pairwise fun p q => p = [] → q = [] := by
  have hkept : ∀ p ∈ ps.rdropWhile (· = []), ',' ∉ p := fun p hp =>
    h p ((List.rdropWhile_prefix _ _).subset hp)
  have hpairwise := forall_rdropWhile_iff (p := fun p : Text => decide (p = [])) (l := ps)
  simp only [decide_eq_false_iff_not, decide_eq_true_eq] at hpairwise
  rw [← filter_rdropWhile, ← hpairwise]
  generalize hl : ps.rdropWhile (· = []) = l at hkept ⊢
  constructor
  · intro heq
    -- The commas tell how many texts are joined, unless it is none or one.
    have hcount := congrArg (List.count ',') heq
    rw [count_intercalate hkept, count_intercalate fun p hp => hkept p (List.mem_of_mem_filter hp)]
      at hcount
    by_cases hnil : l = []
    · simp [hnil]
    · have hlast : l.getLast hnil ≠ [] := by
        subst hl
        simpa using List.rdropWhile_last_not _ _ hnil
      have hpos : 0 < (l.filter (· ≠ [])).length :=
        List.length_pos_of_mem (List.mem_filter.mpr ⟨List.getLast_mem hnil, by simpa using hlast⟩)
      have hle := List.length_filter_le (· ≠ []) l
      have hlength : (l.filter (· ≠ [])).length = l.length := by omega
      simpa using List.length_filter_eq_length_iff.mp hlength
  · intro hall
    rw [List.filter_eq_self.mpr (by simpa using hall)]

end Text

namespace HeaderTemplate

variable {vars : Variables} {xs : List Text}

/-! ### Elements -/

/-- The variable is nothing, or a text that is not empty and holds no comma and no encoded slash. -/
def IsItem (vars : Variables) (x : Text) : Prop :=
  vars.get x = .null ∨
    ∃ t, vars.get x = .text t ∧ t ≠ [] ∧ ',' ∉ t ∧ ¬ slashEscape <:+: t

/-- The texts of the variables up to the last one that is not empty. A variable without a value leaves
an empty text. -/
def elements (vars : Variables) (xs : List Text) : List Text :=
  (xs.map (boundText vars)).rdropWhile (· = [])

/-- The texts of the variables that have a value. -/
def items (vars : Variables) (xs : List Text) : List Text :=
  (xs.map (boundText vars)).filter (· ≠ [])

theorem isItem_text {x t : Text} (h : vars.get x = .text t) (hne : t ≠ []) (hcomma : ',' ∉ t)
    (hslash : decodeSlashes t = t) : IsItem vars x :=
  Or.inr ⟨t, h, hne, hcomma, Template.decodeSlashes_eq_self_iff.mp hslash⟩

theorem boundText_null {x : Text} (h : vars.get x = .null) : boundText vars x = [] := by
  rw [boundText, h]

theorem IsItem.boundText_eq_nil_iff {x : Text} (h : IsItem vars x) :
    boundText vars x = [] ↔ vars.get x = .null := by
  rcases h with hnull | ⟨t, ht, hne, -, -⟩
  · simp [hnull, boundText_null hnull]
  · simp [ht, BodyTemplate.boundText_eq ht, hne]

theorem IsItem.comma_notMem {x : Text} (h : IsItem vars x) : ',' ∉ boundText vars x := by
  rcases h with hnull | ⟨t, ht, -, hcomma, -⟩
  · simp [boundText_null hnull]
  · rwa [BodyTemplate.boundText_eq ht]

theorem IsItem.decodeSlashes_eq {x : Text} (h : IsItem vars x) :
    decodeSlashes (boundText vars x) = boundText vars x := by
  rcases h with hnull | ⟨t, ht, -, -, hslash⟩
  · rw [boundText_null hnull]
    rfl
  · rw [BodyTemplate.boundText_eq ht]
    exact Template.decodeSlashes_eq_self_iff.mpr hslash

/-- The elements are the bound texts and nothing else if no variable without a value stands in front of
one with a value. -/
theorem intercalate_elements_eq_iff (h : ∀ x ∈ xs, IsItem vars x) :
    [',', ' '].intercalate (elements vars xs) = [',', ' '].intercalate (items vars xs) ↔
      xs.Pairwise fun x y => vars.get x = .null → vars.get y = .null := by
  rw [elements, items, Text.intercalate_rdropWhile_eq_iff, List.pairwise_map]
  · refine List.Pairwise.iff_of_mem fun hx hy => ?_
    rw [(h _ hx).boundText_eq_nil_iff, (h _ hy).boundText_eq_nil_iff]
  · intro p hp
    obtain ⟨x, hx, rfl⟩ := List.mem_map.mp hp
    exact (h x hx).comma_notMem

/-! ### Headers of placeholders -/

/-- The source of a header whose values are placeholders. -/
def placeholderSource (name : Text) (xs : List Text) : Text :=
  name ++ ' ' :: [','].intercalate (xs.map placeholder)

theorem distinct_of_nodup {ts : List Text} (h : ts.Nodup) : distinct ts = ts := by
  induction h with
  | nil => rfl
  | @cons t ts hne _ ih =>
      rw [distinct, ih, List.filter_eq_self.mpr fun u hu => by simpa using (hne u hu).symm]

theorem source_placeholders (name : Text) (h : xs.Nodup) :
    source name (xs.map fun x => some (placeholder x)) = placeholderSource name xs := by
  have hinj : Function.Injective placeholder := fun x y hxy => by simpa [placeholder] using hxy
  have hgiven : given (xs.map fun x => some (placeholder x)) = xs.map placeholder := by
    have hkept := QueryTemplate.given_placeholders xs
    rw [QueryTemplate.given] at hkept
    rw [given, hkept, distinct_of_nodup (h.map hinj)]
  rw [source, hgiven, placeholderSource]

section Placeholders

variable (hxs : ∀ x ∈ xs, IsPlainName x)

include hxs

/-- The text is whole, and its expressions are the placeholders. -/
theorem isWhole_placeholderSource {name : Text} (hname : openBrace ∉ name) :
    IsWhole (fun _ => True) (placeholderSource name xs) ∧
      ∀ e ∈ expressionsIn (placeholderSource name xs), ∃ x ∈ xs, ∃ hne, e = named x hne := by
  have hplaceholders : ∀ t ∈ xs.map placeholder, IsWhole (fun _ => True) t := by
    intro t ht
    obtain ⟨x, hx, rfl⟩ := List.mem_map.mp ht
    exact Token.isWhole_placeholder (hxs x hx) _
  obtain ⟨hjoined, hexpressions⟩ :=
    Token.isWhole_intercalate (c := ',') (by decide) trivial hplaceholders
  have hwhole : IsWhole (fun _ => True) name :=
    (Token.consists_literal hname).mpr fun _ _ => trivial
  refine ⟨hwhole.append (hjoined.cons (by decide) trivial), fun e he => ?_⟩
  rw [placeholderSource, Token.expressionsIn_append (Token.level_literal hname),
    Token.expressionsIn_literal hname, List.nil_append, Token.expressionsIn_cons (by decide),
    hexpressions, List.flatMap_map, List.mem_flatMap] at he
  obtain ⟨x, hx, he⟩ := he
  rw [Token.expressionsIn_placeholder (hxs x hx), List.mem_singleton] at he
  exact ⟨x, hx, _, he⟩

theorem tokensText_placeholderSource {name : Text} (hname : openBrace ∉ name)
    (render : Text → Text) : tokensText render vars (placeholderSource name xs)
      = name ++ ' ' :: [','].intercalate (xs.map fun x => render (boundText vars x)) := by
  have hlevel : ∀ t ∈ xs.map placeholder, Token.level 0 t = 0 := by
    intro t ht
    obtain ⟨x, hx, rfl⟩ := List.mem_map.mp ht
    exact Token.level_span (Expression.isSpan_placeholder (hxs x hx))
  have htexts : (xs.map placeholder).map (tokensText render vars)
      = xs.map fun x => render (boundText vars x) := by
    rw [List.map_map]
    exact List.map_congr_left fun x hx => BodyTemplate.tokensText_placeholder (hxs x hx)
  rw [placeholderSource, BodyTemplate.tokensText_append (Token.level_literal hname),
    BodyTemplate.tokensText_literal hname, BodyTemplate.tokensText_cons (by decide),
    BodyTemplate.tokensText_intercalate (by decide) hlevel, htexts]

/-- A header of placeholders is created in every charset. -/
theorem exists_create_placeholders {name : Text} (hne : name ≠ []) (hname : openBrace ∉ name)
    (hnodup : xs.Nodup) (c : Charset) :
    ∃ h, create name (xs.map fun x => some (placeholder x)) c = .ok h ∧
      ∀ e ∈ h.base.expressions, ∃ x ∈ xs, ∃ hne, e = named x hne := by
  obtain ⟨hwhole, hexpressions⟩ := isWhole_placeholderSource hxs hname
  have hencode : ∀ t, ∃ w, (settings c).normalize.encodeLiteral t = .ok w := fun t => ⟨t, rfl⟩
  obtain ⟨cs, hcs⟩ := Template.exists_chunksOfTokens hencode fun _ => hwhole.exists_parse
  have hparse : Template.parse (placeholderSource name xs) (settings c)
      = .ok ⟨placeholderSource name xs, (settings c).normalize, cs⟩ := by
    rw [Template.parse]
    exact bind_eq_ok_iff.mpr ⟨cs, hcs, rfl⟩
  rw [← Template.expressions_parse hparse] at hexpressions
  rw [← source_placeholders name hnodup] at hparse
  exact ⟨⟨name, _, _⟩, create_eq_ok_iff.mpr ⟨hne, rfl, rfl, hparse⟩, hexpressions⟩

/-- **The values behind the last one that is bound leave no trace.** Every variable without a value in
front of it leaves an empty element, so the header sends the bound values and nothing else if and only
if no variable without a value stands in front of one with a value. -/
theorem expand_placeholders {name : Text} (hne : name ≠ []) (hname : openBrace ∉ name)
    (hcomma : ',' ∉ name) (hnodup : xs.Nodup) (hitems : ∀ x ∈ xs, IsItem vars x) (c : Charset) :
    ∃ h, create name (xs.map fun x => some (placeholder x)) c = .ok h ∧
      h.expand vars = .ok (some (name ++ ' ' :: [',', ' '].intercalate (elements vars xs))) ∧
      (h.expand vars = .ok (some (name ++ ' ' :: [',', ' '].intercalate (items vars xs))) ↔
        xs.Pairwise fun x y => vars.get x = .null → vars.get y = .null) := by
  obtain ⟨h, hcreate, hexpressions⟩ := exists_create_placeholders hxs hne hname hnodup c
  have hfills : ∀ e ∈ h.base.expressions, Fills vars e := by
    intro e he
    obtain ⟨x, hx, hxne, rfl⟩ := hexpressions e he
    rcases hitems x hx with hnull | ⟨t, ht, -, -, -⟩
    · exact Or.inl hnull
    · exact Or.inr ⟨t, ht, rfl⟩
  have htokens : tokensText decodeSlashes vars (source name (xs.map fun x => some (placeholder x)))
      = name ++ ' ' :: [','].intercalate (xs.map (boundText vars)) := by
    rw [source_placeholders name hnodup, tokensText_placeholderSource hxs hname,
      List.map_congr_left fun x hx => (hitems x hx).decodeSlashes_eq]
  have hbound : ∀ t ∈ xs.map (boundText vars), ',' ∉ t := by
    intro t ht
    obtain ⟨x, hx, rfl⟩ := List.mem_map.mp ht
    exact (hitems x hx).comma_notMem
  have hexpand : h.expand vars
      = .ok (some (name ++ ' ' :: [',', ' '].intercalate (elements vars xs))) := by
    rw [expand_eq hcreate hfills (by rw [htokens]; simp), htokens, spaceCommas_dropEnd hbound,
      spaceCommas_of_notMem hcomma, elements]
  refine ⟨h, hcreate, hexpand, ?_⟩
  rw [hexpand, ← intercalate_elements_eq_iff hitems]
  simp

end Placeholders

/-- Two media types among five variables. -/
def mediaTypes : Variables :=
  ⟨[("b", .text "text/html"), ("d", .text "text/plain")]⟩

/-- The variable in front of the first type and the one between the two leave an empty element each. -/
theorem expand_placeholders_mediaTypes : ∃ h,
    create "Accept" (["a", "b", "c", "d", "e"].map fun x => some (placeholder x)) .utf8 = .ok h ∧
      h.expand mediaTypes = .ok (some "Accept , text/html, , text/plain") := by
  have hnames : ∀ x ∈ (["a", "b", "c", "d", "e"] : List Text), IsPlainName x := by
    simp only [List.forall_mem_cons]
    refine ⟨?_, ?_, ?_, ?_, ?_, by simp⟩ <;>
      exact Expression.isPlainName_of_identifier (by decide) (by decide)
  have hitems : ∀ x ∈ (["a", "b", "c", "d", "e"] : List Text), IsItem mediaTypes x := by
    have hhtml : IsItem mediaTypes "b" := isItem_text rfl (by decide) (by decide) (by decide)
    have hplain : IsItem mediaTypes "d" := isItem_text rfl (by decide) (by decide) (by decide)
    simp only [List.forall_mem_cons]
    exact ⟨Or.inl rfl, hhtml, Or.inl rfl, hplain, Or.inl rfl, by simp⟩
  have hname : ("Accept" : Text) ≠ [] ∧ openBrace ∉ ("Accept" : Text) ∧ ',' ∉ ("Accept" : Text) := by
    decide
  obtain ⟨h, hcreate, hexpand, -⟩ :=
    expand_placeholders hnames hname.1 hname.2.1 hname.2.2 (by decide) hitems .utf8
  exact ⟨h, hcreate, hexpand⟩

/-- A value in front of the others leaves a trace if it is not bound: the second of two placeholders
alone is sent behind a comma. -/
theorem not_expand_placeholders : ¬ ∀ (name : Text) (xs : List Text) (vars : Variables),
    name ≠ [] → openBrace ∉ name → closeBrace ∉ name → ',' ∉ name →
      (∀ x ∈ xs, IsPlainName x) → xs.Nodup → (∀ x ∈ xs, IsItem vars x) → ∃ h,
        create name (xs.map fun x => some (placeholder x)) .utf8 = .ok h ∧
          h.expand vars = .ok (some (name ++ ' ' :: [',', ' '].intercalate (items vars xs))) := by
  intro hall
  have hnames : ∀ x ∈ (["a", "b"] : List Text), IsPlainName x := by
    simp only [List.forall_mem_cons]
    refine ⟨?_, ?_, by simp⟩ <;>
      exact Expression.isPlainName_of_identifier (by decide) (by decide)
  have hitems : ∀ x ∈ (["a", "b"] : List Text), IsItem (.single "b" (.text "x")) x := by
    simp only [List.forall_mem_cons]
    exact ⟨Or.inl rfl, isItem_text rfl (by decide) (by decide) (by decide), by simp⟩
  obtain ⟨h, hcreate, hexpand⟩ := hall "hello" ["a", "b"] (.single "b" (.text "x")) (by decide)
    (by decide) (by decide) (by decide) hnames (by decide) hitems
  have hrun : (create "hello" [some (placeholder "a"), some (placeholder "b")] .utf8).toOption.any
      (fun h => (h.expand (.single "b" (.text "x"))).toOption = some (some "hello , x".toList))
        = true := by
    decide +kernel
  obtain ⟨h', hcreate', hexpand'⟩ := exists_ok_of_any hrun
  obtain rfl : h = h' := Except.ok.inj (hcreate.symm.trans hcreate')
  have hsent := toOption_eq_some_iff.mp (of_decide_eq_true hexpand')
  have htext := Option.some.inj (Except.ok.inj (hexpand.symm.trans hsent))
  exact absurd htext (by decide)

end HeaderTemplate

end HttpTemplates
