import HttpTemplates.Proofs.Request.Path
import HttpTemplates.Proofs.Request.Resolution
import HttpTemplates.Proofs.Uri.Delimiters
import HttpTemplates.Proofs.Uri.Marks

/-!
# The parts of a resolved URL

The URL of a resolved template is the target, the expanded path and the query string. It can be cut
into these parts again at its first question mark **if and only if the expanded path holds none**
(`RequestTemplate.cut_resolve_iff`). No value puts one there unless its text is in disguise, but an
expression without a value does if its own text holds one: it is kept as text with all of its
delimiters. Otherwise the query string would be taken to begin in the path, and the parameters be
joined to it with an ampersand.
-/

namespace HttpTemplates.RequestTemplate

open UriTemplate (IsParsedPath)

variable {t u r : RequestTemplate} {vars : Variables} {c : Charset} {f : Option CollectionFormat}
  {d : Option Bool} {calls : List Call}

/-! ### Cutting a URL -/

/-- What is sent of the expanded query parameters: the texts that are not empty. -/
def sent (outs : List (Option Text)) : List Text :=
  (outs.map (·.getD [])).filter (· ≠ [])

theorem expandQueries_eq_ok {qs : List QueryTemplate} {parameters : List Text}
    (h : expandQueries vars qs = .ok parameters) : ∃ outs,
      List.Forall₂ (fun q out => q.expand vars = .ok out) qs outs ∧ parameters = sent outs := by
  induction qs generalizing parameters with
  | nil =>
      rw [← Except.ok.inj h]
      exact ⟨[], .nil, rfl⟩
  | cons q qs ih =>
      obtain ⟨head, hhead, h⟩ := bind_eq_ok_iff.mp h
      obtain ⟨tail, htail, h⟩ := bind_eq_ok_iff.mp h
      obtain ⟨outs, houts, rfl⟩ := ih htail
      refine ⟨head :: outs, .cons hhead houts, ?_⟩
      rw [← Except.ok.inj h, sent, sent, List.map_cons, List.filter_cons]
      by_cases hnil : head.getD [] = [] <;> simp [hnil]

/-- The text is cut at its first question mark into this part and the query string, if there is
any. -/
def IsCut (url base line : Text) : Prop :=
  Text.cut '?' url = (base, if line = [] then none else some line)

theorem isCut_joinUrl_iff (base line : Text) : IsCut (joinUrl base line) base line ↔ '?' ∉ base := by
  constructor
  · intro h
    have hleft : (Text.cut '?' (joinUrl base line)).1 = base := by rw [h]
    rw [← hleft]
    exact Text.not_mem_cut '?' _
  · intro h
    unfold IsCut joinUrl
    split
    · exact Text.cut_of_not_mem h
    · rw [if_neg (by simpa using h)]
      exact Text.cut_append h line

/-! ### Targets and paths of a run -/

theorem mark_notMem_dropEnd (p : Char → Bool) (url : Text) :
    '?' ∉ Text.dropEnd p (Text.cut '?' url).1 := by
  intro hmem
  obtain ⟨s, hs, -⟩ := Text.exists_dropEnd p (Text.cut '?' url).1
  refine Text.not_mem_cut '?' url ?_
  rw [hs]
  exact List.mem_append_left s hmem

/-- A target holds no question mark. -/
theorem run_mark_notMem_target (h : (initial c f d).run calls = .ok t) : '?' ∉ t.target := by
  refine run_invariant (P := fun v => '?' ∉ v.target) h (by simp [initial]) ?_
  intro call _ v w _ hv hw
  cases call with
  | target url =>
      rw [withQueryLine_frame (withTarget_eq_ok hw)]
      exact mark_notMem_dropEnd _ url
  | _ =>
      rw [(apply_frame hw).target (by simp)]
      exact hv

/-- The path of a template is the initial one or was parsed in the charset of the run. -/
theorem run_uri (h : (initial c f d).run calls = .ok t) :
    t.uri = .empty .utf8 false ∨ ∃ source encodeSlash,
      UriTemplate.create source c encodeSlash = .ok t.uri := by
  refine run_invariant (P := fun v => v.uri = .empty .utf8 false ∨ ∃ source encodeSlash,
    UriTemplate.create source c encodeSlash = .ok v.uri) h (Or.inl rfl) ?_
  intro call _ v w hcharset hv hw
  cases call with
  | uri text append =>
      obtain ⟨path, line, uri, -, hcreate, hline⟩ := withUri_eq_ok hw
      rw [hcharset] at hcreate
      rw [withQueryLine_frame hline]
      exact Or.inr ⟨_, _, hcreate⟩
  | decodeSlash flag =>
      obtain ⟨uri, queries, hcreate, -, rfl⟩ := withDecodeSlash_eq_ok hw
      rw [hcharset] at hcreate
      exact Or.inr ⟨_, _, hcreate⟩
  | _ =>
      rw [(apply_frame hw).uri (by simp) (by simp)]
      exact hv

/-- Whatever the charset, a path keeps what has no value, and encodes literals and values. A number
sign stands in a literal only if this is in disguise. -/
theorem run_settings (h : (initial c f d).run calls = .ok t) :
    t.uri.base.settings.keepUnresolved = true ∧ t.uri.base.settings.encode = true ∧
      (t.uri.base.settings.charset = .utf8 ∨ t.uri.base.settings.charset = c.orUtf8) ∧
      ∀ l ∈ t.uri.base.literals, '#' ∈ l → Percent.IsDisguised t.uri.base.settings.charset l := by
  obtain hempty | ⟨source, encodeSlash, hcreate⟩ := run_uri h
  · rw [hempty]
    exact ⟨rfl, rfl, Or.inl rfl, by simp [UriTemplate.empty, Template.literals]⟩
  · rw [UriTemplate.settings_of_create hcreate]
    exact ⟨rfl, rfl, Or.inr rfl,
      UriTemplate.isDisguised_of_mem_literals (by decide) (by decide) (by decide) hcreate⟩

/-- What holds of UTF-8 and of the charset of the run holds of that of the path. -/
theorem run_uri_charset {P : Charset → Prop} (h : (initial c f d).run calls = .ok t)
    (hutf8 : P .utf8) (hc : P c.orUtf8) : P t.uri.base.settings.charset := by
  obtain ⟨-, -, heq | heq, -⟩ := run_settings h
  · rw [heq]
    exact hutf8
  · rw [heq]
    exact hc

/-- In a charset that hides nothing of ASCII no delimiter of ASCII is in disguise. -/
theorem run_not_leaks (h : (initial c f d).run calls = .ok t)
    (hc : Percent.DiscernsAscii c.orUtf8) {x : Char} (hplain : Percent.isPlain x = false)
    (hascii : x.toNat < 0x80) : ¬ t.uri.base.Leaks vars x := by
  intro hleak
  have hdiscerns : Percent.DiscernsAscii t.uri.base.settings.charset :=
    run_uri_charset h (Percent.discernsAscii_of_codec Charset.codec_utf8) hc
  exact absurd (hleak.isPlain_of_ascii hdiscerns hascii) (by simp [hplain])

/-- With well-formed paths in a charset that keeps ASCII no literal holds a question mark. -/
theorem run_mark_notMem_literal (h : (initial c f d).run calls = .ok t)
    (hc : c.orUtf8.IsAsciiCompatible) (hcalls : ∀ call ∈ calls, call.IsWellFormed) :
    ∀ l ∈ t.uri.base.literals, '?' ∉ l := by
  obtain ⟨k, hcodec, hk⟩ := hc
  have hpath : IsParsedPath k t.uri.base.chunks :=
    run_parsedPath hcodec hk hcalls (UriTemplate.isParsedPath_nil k) h
  exact fun l hl => hpath.mark_notMem hk l hl

/-! ### The parts of a resolved URL -/

/-- **When a resolved URL is cut where it was put together.** After any run of calls, the first
question mark of the URL divides the target and the expanded path from the query string if and only
if the expanded path holds no question mark. It holds one exactly if a literal of the path does, an
expression without a value that is kept as text, or a text in disguise, and a number sign only in the
last two cases. Neither of them is in disguise in a charset that hides nothing of ASCII. In one that
keeps ASCII, and if all paths that were given are well-formed, both are found in the text of an
expression without a value and nowhere else. -/
theorem cut_resolve_iff (ht : (initial c f d).run calls = .ok t) (hr : t.resolve vars = .ok r) :
    ∃ url headers path outs, r.resolution = some ⟨url, headers⟩ ∧
      t.uri.expand vars = .ok (some path) ∧
      List.Forall₂ (fun q out => q.expand vars = .ok out) t.queries outs ∧
      (IsCut url (t.target ++ path) (['&'].intercalate (sent outs)) ↔ '?' ∉ path) ∧
      ('?' ∈ path ↔ (∃ l ∈ t.uri.base.literals, '?' ∈ l) ∨ t.uri.base.Keeps vars '?' ∨
        t.uri.base.Leaks vars '?') ∧
      ('#' ∈ path ↔ t.uri.base.Keeps vars '#' ∨ t.uri.base.Leaks vars '#') ∧
      (Percent.DiscernsAscii c.orUtf8 → ∀ x ∈ ['?', '#'], ¬ t.uri.base.Leaks vars x) ∧
      (c.orUtf8.IsAsciiCompatible → (∀ call ∈ calls, call.IsWellFormed) →
        ∀ x ∈ ['?', '#'], x ∈ path ↔
          ∃ e ∈ t.uri.base.expressions, (vars.get e.name).isNull = true ∧ x ∈ e.text) := by
  obtain ⟨url, headers, body, hurl, -, -, rfl⟩ := resolve_eq_ok_iff.mp hr
  obtain ⟨out, hout, hurl⟩ := bind_eq_ok_iff.mp hurl
  obtain ⟨parameters, hparameters, hurl⟩ := bind_eq_ok_iff.mp hurl
  obtain ⟨outs, houts, rfl⟩ := expandQueries_eq_ok hparameters
  obtain ⟨hkeep, hencode, -, hnumber⟩ := run_settings ht
  obtain ⟨path, rfl⟩ : ∃ path, out = some path := by
    obtain ⟨ws, -, hws⟩ := Template.expand_eq_ok_of_keepUnresolved hkeep hout
    exact ⟨_, hws⟩
  have hcut : IsCut url (t.target ++ path) (['&'].intercalate (sent outs)) ↔ '?' ∉ path := by
    rw [← Except.ok.inj hurl, Option.getD_some, isCut_joinUrl_iff, List.mem_append, not_or,
      and_iff_right (run_mark_notMem_target ht)]
  have hmem : ∀ {x}, Expression.isRendered x = false → x ≠ '/' →
      (x ∈ path ↔ (∃ l ∈ t.uri.base.literals, x ∈ l) ∨ t.uri.base.Keeps vars x ∨
        t.uri.base.Leaks vars x) :=
    fun hx hslash => Template.mem_expand_iff hkeep hencode hx hslash hout
  have hmark := hmem (x := '?') (by decide) (by decide)
  have hsharp : '#' ∈ path ↔ t.uri.base.Keeps vars '#' ∨ t.uri.base.Leaks vars '#' := by
    rw [hmem (by decide) (by decide), or_iff_right_of_imp]
    rintro ⟨l, hl, hx⟩
    exact Or.inr (.literal hl (hnumber l hl hx) hx)
  have hleaks : Percent.DiscernsAscii c.orUtf8 → ∀ x ∈ ['?', '#'], ¬ t.uri.base.Leaks vars x := by
    intro hc x hx
    simp only [List.mem_cons, List.not_mem_nil, or_false] at hx
    obtain rfl | rfl := hx
    · exact run_not_leaks ht hc (by decide) (by decide)
    · exact run_not_leaks ht hc (by decide) (by decide)
  refine ⟨url, headers, path, outs, rfl, hout, houts, hcut, hmark, hsharp, hleaks,
    fun hc hcalls x hx => ?_⟩
  have hnone := hleaks (Percent.discerns_of_isAsciiCompatible hc).discernsAscii
  have hliterals : ¬ ∃ l ∈ t.uri.base.literals, '?' ∈ l := by
    rintro ⟨l, hl, hmem⟩
    exact run_mark_notMem_literal ht hc hcalls l hl hmem
  have hascii : t.uri.base.settings.charset.IsAsciiCompatible :=
    run_uri_charset ht Charset.isAsciiCompatible_utf8 hc
  simp only [List.mem_cons, List.not_mem_nil, or_false] at hx
  obtain rfl | rfl := hx
  · rw [hmark, or_iff_right hliterals, or_iff_left (hnone '?' (by simp))]
    exact Template.keeps_iff hascii hkeep hencode (by decide) (by decide) hout
  · rw [hsharp, or_iff_left (hnone '#' (by simp))]
    exact Template.keeps_iff hascii hkeep hencode (by decide) (by decide) hout

/-- A path with two expressions whose own texts hold a delimiter, and a query parameter. -/
def markedCalls : List Call := [
  .target "https://api.example.com",
  .uri "/a\x7b#f\x7d/\x7b?q\x7d" false,
  .query "x" [some "1"]]

/-- Values for the two expressions, full of delimiters themselves. -/
def markedVariables : Variables :=
  ⟨[("f", .text "b?c#d"), ("q", .list [.int 1, .text "#"])]⟩

/-- With values for both expressions the URL is cut where it was put together. -/
theorem cut_resolve_bound : ∃ t r url headers path outs,
    (initial .utf8 (some .exploded) (some true)).run markedCalls = .ok t ∧
    t.resolve markedVariables = .ok r ∧ r.resolution = some ⟨url, headers⟩ ∧
    t.uri.expand markedVariables = .ok (some path) ∧ path = "/ab%3Fc%23d/1,%23".toList ∧
    IsCut url (t.target ++ path) (['&'].intercalate (sent outs)) ∧ '#' ∉ path := by
  have hcalls : ∀ call ∈ markedCalls, call.IsWellFormed := by decide +kernel
  have hrun : ((initial .utf8 (some .exploded) (some true)).run markedCalls).toOption.any (fun t =>
      (t.resolve markedVariables).toOption.any (fun _ => true) &&
      (t.uri.expand markedVariables).toOption = some (some "/ab%3Fc%23d/1,%23".toList) &&
      t.uri.base.expressions.all fun e => !(markedVariables.get e.name).isNull) = true := by
    decide +kernel
  obtain ⟨t, ht, hcheck⟩ := exists_ok_of_any hrun
  simp only [Bool.and_eq_true, decide_eq_true_eq, toOption_eq_some_iff, List.all_eq_true,
    Bool.not_eq_true'] at hcheck
  obtain ⟨⟨hresolve, hexpand⟩, hbound⟩ := hcheck
  obtain ⟨r, hr, -⟩ := exists_ok_of_any hresolve
  obtain ⟨url, headers, path, outs, hresolution, hpath, -, hcut, -, -, -, hmarks⟩ :=
    cut_resolve_iff ht hr
  have hnone : ∀ x ∈ ['?', '#'], x ∉ path := by
    intro x hx hmem
    obtain ⟨e, he, hv, -⟩ := (hmarks Charset.isAsciiCompatible_utf8 hcalls x hx).mp hmem
    rw [hbound e he] at hv
    exact absurd hv (by simp)
  have htext : path = "/ab%3Fc%23d/1,%23".toList :=
    Option.some.inj (Except.ok.inj (hpath.symm.trans hexpand))
  exact ⟨t, r, url, headers, path, outs, ht, hr, hresolution, hpath, htext,
    hcut.mpr (hnone '?' (by simp)), hnone '#' (by simp)⟩

/-- Without values the path shows both delimiters. -/
theorem not_mark_notMem_path : ¬ ∀ (calls : List Call) (t r : RequestTemplate) (vars : Variables)
    (path : Text), (initial .utf8 (some .exploded) (some true)).run calls = .ok t →
    t.resolve vars = .ok r → t.uri.expand vars = .ok (some path) → '?' ∉ path ∧ '#' ∉ path := by
  intro h
  have hrun : ((initial .utf8 (some .exploded) (some true)).run markedCalls).toOption.any (fun t =>
      (t.resolve .empty).toOption.any (fun _ => true) &&
      (t.uri.expand .empty).toOption = some (some "/a%7B#f%7D/%7B?q%7D".toList)) = true := by
    decide +kernel
  obtain ⟨t, ht, hcheck⟩ := exists_ok_of_any hrun
  simp only [Bool.and_eq_true, decide_eq_true_eq, toOption_eq_some_iff] at hcheck
  obtain ⟨hresolve, hexpand⟩ := hcheck
  obtain ⟨r, hr, -⟩ := exists_ok_of_any hresolve
  exact absurd (h _ t r _ _ ht hr hexpand) (by decide)

end HttpTemplates.RequestTemplate
