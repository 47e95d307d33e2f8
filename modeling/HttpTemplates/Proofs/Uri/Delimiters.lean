import HttpTemplates.Proofs.Template.Expansion
import HttpTemplates.Proofs.Template.Rendering
import HttpTemplates.Template.Uri

/-!
# Scalar values and the delimiters of a URI

**No scalar value adds, removes or moves a delimiter.** The delimiters of an expanded URI template
are what is left without its unreserved characters and its percent signs. Two expansions that bind
the same variables, to scalars, have the same delimiters (`UriTemplate.delimiters_expand_eq`): a
rendered scalar is an encoded text and has none of its own, and everything else is text of the
template.

A scalar in disguise is passed on with what it hides, which differs from one value to the next
(`UriTemplate.not_delimiters_expand_eq`). As long as this is outside ASCII, the delimiters of ASCII
are the same all the same.
-/

namespace HttpTemplates

/-! ### Scalars -/

namespace Value

/-- Whether a value is a text, a byte string, a truth value or a number. -/
def isScalar : Value → Bool
  | .null | .list _ | .map _ => false
  | _ => true

theorem isNull_of_isScalar {v : Value} (h : v.isScalar = true) : v.isNull = false := by
  cases v with
  | null => simp [isScalar] at h
  | _ => rfl

end Value

/-- Each of the variables is nothing in both maps, or a scalar in both. -/
def Variables.SameKinds (a b : Variables) (names : List Text) : Prop :=
  ∀ n ∈ names, ((a.get n).isNull = true ∧ (b.get n).isNull = true) ∨
    ((a.get n).isScalar = true ∧ (b.get n).isScalar = true)

/-- No value of these variables leaks a character of this kind. -/
def Variables.Withholds (vars : Variables) (c : Charset) (kind : Char → Bool)
    (names : List Text) : Prop :=
  ∀ n ∈ names, ∀ x, kind x = true → ¬ (vars.get n).Leaks c x

/-! ### Delimiters -/

namespace Percent

/-- Whether a character is neither unreserved nor a percent sign. -/
def isDelimiter (x : Char) : Bool :=
  !isPlain x

/-- Whether a character of ASCII is neither unreserved nor a percent sign. -/
def isAsciiDelimiter (x : Char) : Bool :=
  isAscii x && isDelimiter x

/-- The text without its unreserved characters and its percent signs. -/
def delimiters (t : Text) : Text :=
  t.filter isDelimiter

/-- What ASCII has of them. -/
def asciiDelimiters (t : Text) : Text :=
  t.filter isAsciiDelimiter

end Percent

open Percent (isPlain isDelimiter isAsciiDelimiter)

theorem Value.leaks_iff_of_isScalar {c : Charset} {v : Value} {x : Char}
    (hv : v.isScalar = true) : v.Leaks c x ↔ v.Hides c x := by
  have hparts : v.parts = [v] := by
    cases v with
    | null | list _ | map _ => simp [isScalar] at hv
    | _ => rfl
  simp [Leaks, hparts]

/-- A rendered scalar has no delimiter of a kind that it does not leak. -/
theorem Expression.filter_render {kind : Char → Bool}
    (hkind : ∀ x, kind x = true → isPlain x = false) {c : Charset} {v : Value}
    (hv : v.isScalar = true) (hleaks : ∀ x, kind x = true → ¬ v.Leaks c x) {w : Text}
    (h : render true c v = .ok w) : w.filter kind = [] := by
  have hscalar : render true c v = renderScalar true c v := by
    cases v with
    | null | list _ | map _ => simp [Value.isScalar] at hv
    | _ => rfl
  rw [hscalar] at h
  refine List.filter_eq_nil_iff.mpr fun x hx hmarked => hleaks x hmarked ?_
  rw [Value.leaks_iff_of_isScalar hv]
  exact (mem_renderScalar_iff (hkind x hmarked) h).mp hx

/-! ### Two expansions -/

namespace Template

section TwoRuns

variable {s : Settings} (hencode : s.encode = true) (hslash : s.encodeSlash = true)
variable {kind : Char → Bool} (hkind : ∀ x, kind x = true → isPlain x = false)
variable {a b : Variables}

include hencode hslash hkind

/-- A chunk contributes the same delimiters of this kind to two expansions. -/
theorem filter_expandChunk_eq {c : Chunk} {x y : Text}
    (hsame : ∀ e, c = .expression e → a.SameKinds b [e.name] ∧
      a.Withholds s.charset kind [e.name] ∧ b.Withholds s.charset kind [e.name])
    (hx : expandChunk s a c = .ok (some x)) (hy : expandChunk s b c = .ok (some y)) :
    x.filter kind = y.filter kind := by
  cases c with
  | literal t ht =>
      obtain rfl : t = x := Option.some.inj (Except.ok.inj hx)
      obtain rfl : t = y := Option.some.inj (Except.ok.inj hy)
      rfl
  | expression e =>
      obtain ⟨hkinds, hxs, hys⟩ := hsame e rfl
      have hname : e.name ∈ [e.name] := List.mem_singleton.mpr rfl
      rcases hkinds e.name hname with ⟨ha, hb⟩ | ⟨ha, hb⟩
      · -- The expression stays as text, which does not depend on the variables.
        rw [expandChunk, expandExpression_null ha] at hx
        rw [expandChunk, expandExpression_null hb, hx] at hy
        rw [Option.some.inj (Except.ok.inj hy)]
      · have hvalue : ∀ {vars : Variables} {z : Text}, (vars.get e.name).isScalar = true →
            vars.Withholds s.charset kind [e.name] →
            expandChunk s vars (.expression e) = .ok (some z) → z.filter kind = [] := by
          intro vars z hscalar hleaks hz
          obtain ⟨w, hw, hz⟩ :=
            (expandExpression_eq_ok_iff (Value.isNull_of_isScalar hscalar)).mp hz
          rw [hslash, if_pos rfl] at hz
          obtain rfl : z = w := Option.some.inj hz
          rw [hencode] at hw
          exact Expression.filter_render hkind hscalar (hleaks _ hname)
            (Expression.expand_eq_ok_iff.mp hw).1
        rw [hvalue ha hxs hx, hvalue hb hys hy]

/-- The chunks of a list contribute the same delimiters of this kind to two expansions. -/
theorem filter_flatten_eq {cs : List Chunk} {names : List Text}
    (hnames : ∀ e, .expression e ∈ cs → e.name ∈ names) (hsame : a.SameKinds b names)
    (ha : a.Withholds s.charset kind names) (hb : b.Withholds s.charset kind names)
    {xs ys : List Text}
    (hxs : List.Forall₂ (fun c w => expandChunk s a c = .ok (some w)) cs xs)
    (hys : List.Forall₂ (fun c w => expandChunk s b c = .ok (some w)) cs ys) :
    xs.flatten.filter kind = ys.flatten.filter kind := by
  induction hxs generalizing ys with
  | nil =>
      cases hys
      rfl
  | @cons c x cs xs hx _ ih =>
      cases hys with
      | @cons _ y _ ys hy hys =>
          have hhead : ∀ e, c = .expression e → a.SameKinds b [e.name] ∧
              a.Withholds s.charset kind [e.name] ∧ b.Withholds s.charset kind [e.name] := by
            rintro e rfl
            have hname := hnames e (List.mem_cons_self ..)
            refine ⟨fun n hn => ?_, fun n hn => ?_, fun n hn => ?_⟩
            · exact hsame n (List.mem_singleton.mp hn ▸ hname)
            · exact ha n (List.mem_singleton.mp hn ▸ hname)
            · exact hb n (List.mem_singleton.mp hn ▸ hname)
          have htail := ih (fun e he => hnames e (List.mem_cons_of_mem _ he)) hys
          rw [List.flatten_cons, List.flatten_cons, List.filter_append, List.filter_append, htail,
            filter_expandChunk_eq hencode hslash hkind hhead hx hy]

end TwoRuns

end Template

namespace UriTemplate

theorem settings_of_create {source : Text} {c : Charset} {encodeSlash : Bool} {t : UriTemplate}
    (h : create source c encodeSlash = .ok t) : t.base.settings = settings c encodeSlash := by
  obtain ⟨chunks, -, h⟩ := bind_eq_ok_iff.mp h
  rw [← Except.ok.inj h]

/-- **Scalar values do not change the delimiters of a URI**, unless one of them is in disguise. Where
no delimiter of ASCII is in disguise they change none of these in any case. -/
theorem delimiters_expand_eq {source : Text} {c : Charset} {t : UriTemplate}
    (ht : create source c true = .ok t) {a b : Variables} (hsame : a.SameKinds b t.variableNames)
    {x y : Option Text} (hx : t.expand a = .ok x) (hy : t.expand b = .ok y) :
    ∃ u v, x = some u ∧ y = some v ∧
      (a.Withholds c.orUtf8 isDelimiter t.variableNames →
        b.Withholds c.orUtf8 isDelimiter t.variableNames →
          Percent.delimiters u = Percent.delimiters v) ∧
      (Percent.DiscernsAscii c.orUtf8 →
        Percent.asciiDelimiters u = Percent.asciiDelimiters v) := by
  have hsettings := settings_of_create ht
  have hkeep : t.base.settings.keepUnresolved = true := by rw [hsettings]; rfl
  have hencode : t.base.settings.encode = true := by rw [hsettings]; rfl
  have hslash : t.base.settings.encodeSlash = true := by rw [hsettings]; rfl
  have hcharset : t.base.settings.charset = c.orUtf8 := by rw [hsettings]; rfl
  have hnames : ∀ e, .expression e ∈ t.base.chunks → e.name ∈ t.variableNames := fun e he =>
    List.mem_map.mpr ⟨e, List.mem_filterMap.mpr ⟨_, he, rfl⟩, rfl⟩
  obtain ⟨us, hus, rfl⟩ := Template.expand_eq_ok_of_keepUnresolved hkeep hx
  obtain ⟨vs, hvs, rfl⟩ := Template.expand_eq_ok_of_keepUnresolved hkeep hy
  rw [← hcharset]
  refine ⟨_, _, rfl, rfl, fun ha hb => ?_, fun hc => ?_⟩
  · exact Template.filter_flatten_eq hencode hslash (fun x hx => by simpa [isDelimiter] using hx)
      hnames hsame ha hb hus hvs
  · -- What is in disguise is outside ASCII.
    have hdelimiter : ∀ x, isAsciiDelimiter x = true → x.toNat < 0x80 ∧ isPlain x = false :=
      fun x hx => by simpa [isAsciiDelimiter, Percent.isAscii, isDelimiter] using hx
    have hwithholds : ∀ vars : Variables,
        vars.Withholds t.base.settings.charset isAsciiDelimiter t.variableNames := by
      intro vars n _ x hx hleaks
      obtain ⟨hascii, hplain⟩ := hdelimiter x hx
      exact absurd (Value.isPlain_of_leaks hc hleaks hascii) (by simp [hplain])
    exact Template.filter_flatten_eq hencode hslash (fun x hx => (hdelimiter x hx).2) hnames hsame
      (hwithholds a) (hwithholds b) hus hvs

/-- A template with an expression in its path and one in its query string. -/
def itemUri : Text :=
  "/items/\x7bid\x7d?page=\x7bpage\x7d"

/-- A path segment full of delimiters is as good as a number. -/
theorem delimiters_itemUri : ∃ t x y, create itemUri .utf8 true = .ok t ∧
    t.expand ⟨[("id", .text "a/b?c=d")]⟩ = .ok x ∧ t.expand ⟨[("id", .int 7)]⟩ = .ok y ∧
      ∃ u v, x = some u ∧ y = some v ∧ Percent.delimiters u = Percent.delimiters v := by
  have hrun : (create itemUri .utf8 true).toOption.any (fun t =>
      t.variableNames = ["id".toList, "page".toList] &&
      (t.expand ⟨[("id", .text "a/b?c=d")]⟩).toOption
        = some (some "/items/a%2Fb%3Fc%3Dd?page=%7Bpage%7D".toList) &&
      (t.expand ⟨[("id", .int 7)]⟩).toOption
        = some (some "/items/7?page=%7Bpage%7D".toList)) = true := by
    decide +kernel
  obtain ⟨t, ht, hcheck⟩ := exists_ok_of_any hrun
  simp only [Bool.and_eq_true, decide_eq_true_eq, toOption_eq_some_iff] at hcheck
  obtain ⟨⟨hnames, hx⟩, hy⟩ := hcheck
  have hsame : Variables.SameKinds ⟨[("id", .text "a/b?c=d")]⟩ ⟨[("id", .int 7)]⟩
      t.variableNames := by
    rw [hnames]
    intro n hn
    simp only [List.mem_cons, List.not_mem_nil, or_false] at hn
    rcases hn with rfl | rfl
    · exact Or.inr ⟨rfl, rfl⟩
    · exact Or.inl ⟨rfl, rfl⟩
  -- In UTF-8 no text is in disguise.
  have hwithholds : ∀ vars : Variables,
      vars.Withholds Charset.utf8.orUtf8 isDelimiter t.variableNames := fun vars n _ x _ =>
    Value.not_leaks_of_discerns
      (Percent.discerns_of_isAsciiCompatible Charset.isAsciiCompatible_utf8) _
  obtain ⟨u, v, hu, hv, hequal, -⟩ := delimiters_expand_eq ht hsame hx hy
  exact ⟨t, _, _, ht, hx, hy, u, v, hu, hv, hequal (hwithholds _) (hwithholds _)⟩

/-- In Shift JIS a value with an overline is taken for an encoded one, and an overline is neither
unreserved nor a percent sign. -/
theorem not_delimiters_expand_eq : ¬ ∀ (source : Text) (c : Charset) (t : UriTemplate)
    (a b : Variables) (u v : Text), create source c true = .ok t →
    a.SameKinds b t.variableNames → t.expand a = .ok (some u) → t.expand b = .ok (some v) →
      Percent.delimiters u = Percent.delimiters v := by
  intro h
  have hrun : (create "\x7bv\x7d" (.named "shift_jis") true).toOption.any (fun t =>
      t.variableNames = ["v".toList] &&
      (t.expand ⟨[("v", .text "‾%41")]⟩).toOption = some (some "‾%41".toList) &&
      (t.expand ⟨[("v", .text "x")]⟩).toOption = some (some "x".toList)) = true := by
    decide +kernel
  obtain ⟨t, ht, hcheck⟩ := exists_ok_of_any hrun
  simp only [Bool.and_eq_true, decide_eq_true_eq, toOption_eq_some_iff] at hcheck
  obtain ⟨⟨hnames, hx⟩, hy⟩ := hcheck
  refine absurd (h _ _ t _ _ _ _ ht ?_ hx hy) (by decide)
  rw [hnames]
  intro n hn
  obtain rfl := List.mem_singleton.mp hn
  exact Or.inr ⟨rfl, rfl⟩

end UriTemplate

end HttpTemplates
