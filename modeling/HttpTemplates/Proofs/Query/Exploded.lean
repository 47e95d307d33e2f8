import HttpTemplates.Proofs.Percent.Disguise
import HttpTemplates.Proofs.Text.Splitting
import HttpTemplates.Template.Query
import Mathlib.Data.List.Forall2

/-!
# Exploded parameters

**An exploded parameter is one pair for each of its values, all with the same name.** Name and
values are encoded as parts of a query string behind everything else that is done with them. What
is left of them are unreserved characters, percent signs, slashes, colons and at signs
(`Percent.isParameterChar`), whatever the values and, **unless one of them is in disguise**, whatever
the charset. None of these is a delimiter of a query string, so the ampersands and the equals signs of
the expansion are those that `CollectionFormat.explode` writes (`QueryTemplate.expand_exploded`). A
value in disguise is passed on as it is; in Shift JIS an overline is then left
(`QueryTemplate.not_isParameterChar_expand`), but still no delimiter.
-/

namespace HttpTemplates

/-! ### Characters of a name or a value -/

namespace Percent

/-- Whether a character may occur in an encoded name or value of a query string. -/
def isParameterChar (c : Char) : Bool :=
  isPlain c || isQueryParamSafe c

section Encoded

variable {c : Charset} {t w : Text} (h : queryParamEncode c t = .ok w)

include h

theorem isParameterChar_of_encode (ht : ¬ IsDisguised c t) : ∀ x ∈ w, isParameterChar x = true := by
  intro x hx
  rw [isParameterChar, Bool.or_eq_true]
  exact (mem_encodeUnlessEncoded h hx).imp_right fun hx => hx.resolve_right ht

/-- A text in disguise is passed on with its characters outside ASCII. -/
theorem isParameterChar_of_encode_ascii (hc : DiscernsAscii c) :
    ∀ x ∈ w, x.toNat < 0x80 → isParameterChar x = true := by
  intro x hx hascii
  by_cases ht : IsDisguised c t
  · rw [eq_of_isDisguised h ht] at hx
    simp [isParameterChar, hc t ht x hx hascii]
  · exact isParameterChar_of_encode h ht x hx

end Encoded

/-- A text whose characters of ASCII are such characters holds no other one of these. -/
theorem not_mem_of_isParameterChar {t : Text}
    (h : ∀ x ∈ t, x.toNat < 0x80 → isParameterChar x = true) {c : Char}
    (hc : isParameterChar c = false) (hascii : c.toNat < 0x80) : c ∉ t := by
  intro hmem
  rw [h c hmem hascii] at hc
  exact absurd hc (by simp)

theorem ascii_of_isParameterChar {x : Char} (h : isParameterChar x = true) : x.toNat < 0x80 := by
  rcases (Bool.or_eq_true _ _).mp h with h | h
  · rcases isPlain_iff.mp h with h | rfl
    · exact ascii_of_isUnreserved h
    · decide
  · simp only [isQueryParamSafe, Bool.or_eq_true, decide_eq_true_eq] at h
    rcases h with (rfl | rfl) | rfl <;> decide

end Percent

open Percent (queryParamEncode isParameterChar not_mem_of_isParameterChar IsDisguised DiscernsAscii)

/-! ### Pairs -/

namespace CollectionFormat

/-- The pairs of a name with each of the values. -/
def pairs (field : Text) (ts : List Text) : List Text :=
  ts.map (field ++ '=' :: ·)

/-- Every value is encoded and makes one pair. -/
theorem explode_eq_ok_some {c : Charset} {field : Text} {vs out : List Text}
    (h : explode c field (vs.map some) = .ok out) :
    ∃ ts, List.Forall₂ (fun v t => queryParamEncode c v = .ok t) vs ts ∧ out = pairs field ts := by
  induction vs generalizing out with
  | nil => exact ⟨[], .nil, (Except.ok.inj h).symm⟩
  | cons v vs ih =>
      obtain ⟨head, hhead, h⟩ := bind_eq_ok_iff.mp h
      obtain ⟨tail, htail, h⟩ := bind_eq_ok_iff.mp h
      obtain ⟨ts, hts, rfl⟩ := ih htail
      exact ⟨head :: ts, .cons hhead hts, (Except.ok.inj h).symm⟩

/-- What holds of an encoded text holds of each of them. -/
theorem forall_encoded {c : Charset} {vs ts : List Text} {P : Text → Prop} {Q : Text → Prop}
    (h : List.Forall₂ (fun v t => queryParamEncode c v = .ok t) vs ts)
    (hP : ∀ v t, queryParamEncode c v = .ok t → P v → Q t) (hvs : ∀ v ∈ vs, P v) :
    ∀ t ∈ ts, Q t := by
  induction h with
  | nil => simp
  | cons hv _ ih =>
      obtain ⟨hhead, htail⟩ := List.forall_mem_cons.mp hvs
      exact List.forall_mem_cons.mpr ⟨hP _ _ hv hhead, ih htail⟩

/-- An exploded parameter is put together from its pairs. -/
theorem join_exploded {c : Charset} {name r : Text} {vs : List Text} (hne : vs ≠ [])
    (h : exploded.join name (vs.map some) c = .ok r) : ∃ field ts,
      queryParamEncode c name = .ok field ∧
        List.Forall₂ (fun v t => queryParamEncode c v = .ok t) vs ts ∧
          r = ['&'].intercalate (pairs field ts) := by
  rw [join, if_neg (by simp [hne])] at h
  obtain ⟨field, hfield, h⟩ := bind_eq_ok_iff.mp h
  obtain ⟨out, hout, h⟩ := bind_eq_ok_iff.mp h
  obtain ⟨ts, hts, rfl⟩ := explode_eq_ok_some hout
  exact ⟨field, ts, hfield, hts, (Except.ok.inj h).symm⟩

section Pieces

variable {field : Text} {ts : List Text} (hne : ts ≠ [])
variable (h : ∀ t ∈ field :: ts, ∀ x ∈ t, x.toNat < 0x80 → isParameterChar x = true)

include hne h

/-- The ampersands between the pairs are the only ones, so that splitting gives the pairs back. -/
theorem pieces_pairs : Text.pieces '&' (['&'].intercalate (pairs field ts)) = pairs field ts := by
  obtain ⟨hfield, hts⟩ := List.forall_mem_cons.mp h
  have hampersand : '&' ∉ field := not_mem_of_isParameterChar hfield (by decide) (by decide)
  refine Text.pieces_intercalate (by simp [pairs, hne]) fun p hp => ?_
  obtain ⟨t, ht, rfl⟩ := List.mem_map.mp hp
  have hvalue : '&' ∉ t := not_mem_of_isParameterChar (hts t ht) (by decide) (by decide)
  simp [hampersand, hvalue]

/-- The equals sign within each pair is the only one. -/
theorem cut_pieces_pairs :
    (Text.pieces '&' (['&'].intercalate (pairs field ts))).map (Text.cut '=') =
      ts.map fun t => (field, some t) := by
  have hequals : '=' ∉ field :=
    not_mem_of_isParameterChar (h field (List.mem_cons_self ..)) (by decide) (by decide)
  rw [pieces_pairs hne h, pairs, List.map_map]
  exact List.map_congr_left fun t _ => Text.cut_append hequals t

end Pieces

end CollectionFormat

/-! ### Expansion -/

namespace QueryTemplate

open CollectionFormat (pairs)

theorem charset_of_create {name : Text} {values : List (Option Text)} {c : Charset}
    {f : CollectionFormat} {decodeSlash : Bool} {q : QueryTemplate}
    (h : create name values c f decodeSlash = .ok q) : q.charset = c.orUtf8 := by
  rw [create] at h
  split at h
  · exact absurd h (by simp)
  · obtain ⟨_, -, h⟩ := bind_eq_ok_iff.mp h
    obtain ⟨_, -, h⟩ := bind_eq_ok_iff.mp h
    rw [← Except.ok.inj h]

/-- **An exploded parameter has one name and a pair for each value.** Name and values are those that
its templates expand to, the values cut at their commas. They are encoded, which leaves parameter
characters unless one of them is in disguise. If none is, or if the charset has no delimiter of ASCII
in disguise, no variable can add a parameter with another name or a delimiter: cutting the expansion at
its ampersands, and each part at its first equals sign, gives the name and the values back. -/
theorem expand_exploded {q : QueryTemplate} {vars : Variables} {r : Text} (hvalues : q.values ≠ [])
    (hformat : q.format = .exploded) (h : q.expand vars = .ok (some r)) : ∃ name vs field ts,
      (q.name.expand vars).map (·.getD []) = .ok name ∧
        expandValues vars q.values = .ok vs ∧ ts.length = vs.length ∧ ts ≠ [] ∧
        queryParamEncode q.charset name = .ok field ∧
        List.Forall₂ (fun v t => queryParamEncode q.charset v = .ok t) vs ts ∧
        r = ['&'].intercalate (pairs field ts) ∧
        ((∀ v ∈ name :: vs, ¬ IsDisguised q.charset v) →
          ∀ t ∈ field :: ts, ∀ x ∈ t, isParameterChar x = true) ∧
        (DiscernsAscii q.charset →
          ∀ t ∈ field :: ts, ∀ x ∈ t, x.toNat < 0x80 → isParameterChar x = true) ∧
        ((∀ v ∈ name :: vs, ¬ IsDisguised q.charset v) ∨ DiscernsAscii q.charset →
          (Text.pieces '&' r).map (Text.cut '=') = ts.map fun t => (field, some t)) := by
  have hpure : q.isPure = false := by simpa [isPure] using hvalues
  obtain ⟨name, hname, h⟩ := bind_eq_ok_iff.mp h
  dsimp only at h
  rw [hpure, if_neg (by simp)] at h
  obtain ⟨vs, hvs, h⟩ := bind_eq_ok_iff.mp h
  by_cases hne : vs = []
  · rw [if_pos hne] at h
    exact absurd h (by simp)
  rw [if_neg hne, hformat, map_eq_ok_iff] at h
  obtain ⟨out, hjoin, hout⟩ := h
  obtain rfl : out = r := Option.some.inj hout
  obtain ⟨field, ts, hfield, hts, rfl⟩ := CollectionFormat.join_exploded hne hjoin
  have hts' : ts ≠ [] := by
    rw [← List.length_pos_iff, ← hts.length_eq]
    exact List.length_pos_iff.mpr hne
  have hall : List.Forall₂ (fun v t => queryParamEncode q.charset v = .ok t)
      (name.getD [] :: vs) (field :: ts) := .cons hfield hts
  have hplain : (∀ v ∈ name.getD [] :: vs, ¬ IsDisguised q.charset v) →
      ∀ t ∈ field :: ts, ∀ x ∈ t, isParameterChar x = true :=
    CollectionFormat.forall_encoded hall fun _ _ => Percent.isParameterChar_of_encode
  have hascii : DiscernsAscii q.charset →
      ∀ t ∈ field :: ts, ∀ x ∈ t, x.toNat < 0x80 → isParameterChar x = true := fun hc =>
    CollectionFormat.forall_encoded (P := fun _ => True) hall
      (fun _ _ ht _ => Percent.isParameterChar_of_encode_ascii ht hc) fun _ _ => trivial
  refine ⟨_, vs, field, ts, map_eq_ok_iff.mpr ⟨name, hname, rfl⟩, hvs, hts.length_eq.symm, hts',
    hfield, hts, rfl, hplain, hascii, ?_⟩
  rintro (hd | hc)
  · exact CollectionFormat.cut_pieces_pairs hts' fun t ht x hx _ => hplain hd t ht x hx
  · exact CollectionFormat.cut_pieces_pairs hts' (hascii hc)

/-- Tags that hold the delimiters of a query string. -/
def hostileTags : Variables :=
  ⟨[("tags", .list [.text "a&admin=1", .text "b+c", .null])]⟩

/-- The delimiters within the tags do not separate anything. -/
theorem expand_exploded_tags : ∃ q r,
    create "tag" [some "\x7btags\x7d"] .utf8 .exploded true = .ok q ∧ q.values ≠ [] ∧
    q.format = .exploded ∧ q.expand hostileTags = .ok (some r) ∧
    r = "tag=a%26admin%3D1&tag=b%2Bc".toList ∧
    ∃ field, ∀ p ∈ (Text.pieces '&' r).map (Text.cut '='), p.1 = field := by
  have hrun : (create "tag" [some "\x7btags\x7d"] .utf8 .exploded true).toOption.any (fun q =>
      q.values ≠ [] && q.format = .exploded && (q.expand hostileTags).toOption.any
        fun r => r = some "tag=a%26admin%3D1&tag=b%2Bc".toList) = true := by
    decide +kernel
  obtain ⟨q, hq, hcheck⟩ := exists_ok_of_any hrun
  rw [Bool.and_eq_true, Bool.and_eq_true] at hcheck
  obtain ⟨⟨hvalues, hformat⟩, hexpand⟩ := hcheck
  have hvalues := of_decide_eq_true hvalues
  have hformat := of_decide_eq_true hformat
  obtain ⟨_, hr, heq⟩ := exists_ok_of_any hexpand
  rw [of_decide_eq_true heq] at hr
  have hc : DiscernsAscii q.charset := by
    rw [charset_of_create hq]
    exact Percent.discernsAscii_of_codec Charset.codec_utf8
  obtain ⟨_, _, field, ts, -, -, -, -, -, -, -, -, -, hcut⟩ := expand_exploded hvalues hformat hr
  refine ⟨q, _, hq, hvalues, hformat, hr, rfl, field, fun p hp => ?_⟩
  rw [hcut (Or.inr hc)] at hp
  obtain ⟨t, -, rfl⟩ := List.mem_map.mp hp
  rfl

/-- In Shift JIS a value with an overline is taken for an encoded one. -/
theorem not_isParameterChar_expand : ¬ ∀ (q : QueryTemplate) (vars : Variables) (r : Text),
    create "q" [some "\x7bv\x7d"] (.named "shift_jis") .exploded true = .ok q →
    q.expand vars = .ok (some r) → ∃ field ts, r = ['&'].intercalate (pairs field ts) ∧
      ∀ t ∈ field :: ts, ∀ x ∈ t, isParameterChar x = true := by
  intro h
  have hrun : (create "q" [some "\x7bv\x7d"] (.named "shift_jis") .exploded true).toOption.any
      (fun q => (q.expand ⟨[("v", .text "‾%41")]⟩).toOption = some (some "q=‾%41".toList))
        = true := by
    decide +kernel
  obtain ⟨q, hq, hexpand⟩ := exists_ok_of_any hrun
  obtain ⟨field, ts, hr, hall⟩ := h q _ _ hq (toOption_eq_some_iff.mp (of_decide_eq_true hexpand))
  have hmem : '‾' ∈ ['&'].intercalate (pairs field ts) := by
    rw [← hr]
    decide
  -- Neither a pair nor what stands between the pairs holds an overline.
  rcases Text.mem_intercalate hmem with heq | ⟨p, hp, hx⟩
  · exact absurd heq (by decide)
  · obtain ⟨t, ht, rfl⟩ := List.mem_map.mp hp
    rcases List.mem_append.mp hx with hx | hx
    · exact absurd (hall field (List.mem_cons_self ..) _ hx) (by decide)
    · rcases List.mem_cons.mp hx with heq | hx
      · exact absurd heq (by decide)
      · exact absurd (hall t (List.mem_cons_of_mem _ ht) _ hx) (by decide)

end QueryTemplate

end HttpTemplates
