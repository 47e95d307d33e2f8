import HttpTemplates.Proofs.Query.Exploded
import HttpTemplates.Proofs.Query.Literal
import HttpTemplates.Proofs.Template.Elements
import Mathlib.Data.List.DropRight

/-!
# Lists in an exploded parameter

A list that is bound to the variable of a parameter is rendered as a text with commas, and this text
is split at its commas again, without the empty parts at its end. **So an exploded parameter has one
pair for each element of a list, the pair that the element makes on its own, and one more empty pair
in front if the first two elements are empty** (`QueryTemplate.pieces_expand_list`). Empty elements
at the front and in the middle stay, as long as the last one is not empty.

Neither step confuses an element with the others because no encoded text holds a comma. What an
exploded parameter with a single variable makes of any value is `exists_create_placeholder`.
-/

namespace HttpTemplates

open Percent (encoded quote noneSafe isQueryParamSafe isParameterChar not_mem_of_isParameterChar)
open Expression (IsPlainName placeholder named shown)
open CollectionFormat (pairs)

/-- A single variable. -/
def Variables.single (name : Text) (v : Value) : Variables :=
  ⟨[(name, v)]⟩

@[simp] theorem Variables.get_single (name : Text) (v : Value) : (single name v).get name = v := by
  simp [single, get]

namespace QueryTemplate

/-! ### Values -/

/-- A rendered value as it stands in the expansion of its template. -/
def slashed (decodeSlash : Bool) (w : Text) : Text :=
  if decodeSlash then Template.decodeSlashes w else w

theorem slashed_eq_nil_iff {decodeSlash : Bool} {w : Text} : slashed decodeSlash w = [] ↔ w = [] := by
  cases decodeSlash with
  | false => rfl
  | true => exact Template.decodeSlashes_eq_nil_iff

theorem slashed_intercalate (decodeSlash : Bool) (ws : List Text) :
    slashed decodeSlash ([','].intercalate ws) = [','].intercalate (ws.map (slashed decodeSlash)) := by
  cases decodeSlash with
  | false => exact congrArg ([','].intercalate ·) (List.map_id ws).symm
  | true => exact Template.decodeSlashes_intercalate ws

/-- Splitting at commas undoes joining with them, if the last part is not empty. -/
theorem valuesOf_intercalate {ws : List Text} (hcomma : ∀ w ∈ ws, ',' ∉ w) (hne : ws ≠ [])
    (hlast : ws.getLast? ≠ some []) : valuesOf ([','].intercalate ws) = ws := by
  have hpieces : Text.pieces ',' ([','].intercalate ws) = ws := Text.pieces_intercalate hne hcomma
  rw [valuesOf]
  split
  · rw [splitList, hpieces]
    refine List.rdropWhile_eq_self_iff.mpr fun _ hblank => hlast ?_
    rw [List.getLast?_eq_some_getLast hne, of_decide_eq_true hblank]
  · next hcontains =>
      rwa [Text.pieces_of_not_mem fun h => hcontains (List.contains_iff_mem.mpr h)] at hpieces

/-! ### Elements -/

/-- What a text becomes on its way through the template of a value. -/
def element (k : Codec) (decodeSlash : Bool) (v : Text) : Text :=
  slashed decodeSlash (encoded noneSafe k v)

section Element

variable {k : Codec} {decodeSlash : Bool}

theorem isParameterChar_of_mem_element {v : Text} :
    ∀ x ∈ element k decodeSlash v, isParameterChar x = true := by
  have hencoded : ∀ {y}, y ∈ encoded noneSafe k v → isParameterChar y = true := fun hy => by
    have hplain := (Percent.mem_encoded hy).resolve_right (by simp [noneSafe])
    simp [isParameterChar, hplain]
  intro x hx
  cases decodeSlash with
  | false => exact hencoded hx
  | true =>
      rcases Template.mem_decodeSlashes hx with hx | rfl
      · exact hencoded hx
      · decide

theorem comma_notMem_element (v : Text) : ',' ∉ element k decodeSlash v :=
  not_mem_of_isParameterChar (fun x hx _ => isParameterChar_of_mem_element x hx) (by decide)
    (by decide)

variable (hk : k.IsAsciiCompatible)

include hk

theorem element_eq_nil_iff {v : Text} (hv : k.Encodes v) : element k decodeSlash v = [] ↔ v = [] := by
  rw [element, slashed_eq_nil_iff, Percent.encoded_eq_nil_iff hk hv]

/-- A list stands for the elements that it shows. -/
theorem valuesOf_joinElements {vs : List Text} (hne : vs ≠ []) (hlast : vs.getLast? ≠ some [])
    (hvs : ∀ v ∈ vs, k.Encodes v) :
    valuesOf (slashed decodeSlash (Expression.joinElements (vs.map (encoded noneSafe k))))
      = (shown vs).map (element k decodeSlash) := by
  have hcomma : [','] ∉ vs.map (encoded noneSafe k) := fun h => by
    obtain ⟨v, -, hv⟩ := List.mem_map.mp h
    have hplain := Percent.mem_encoded (hv ▸ List.mem_singleton_self ',')
    exact absurd hplain (by decide)
  have hshown : shown (vs.map (encoded noneSafe k)) = (shown vs).map (encoded noneSafe k) :=
    Expression.shown_map rfl fun v hv => (Percent.encoded_eq_nil_iff hk (hvs v hv)).mp
  rw [Expression.joinElements_eq hcomma, hshown, slashed_intercalate, List.map_map]
  refine valuesOf_intercalate (List.forall_mem_map.mpr fun v _ => comma_notMem_element v)
    (mt (List.map_eq_nil_iff.trans Expression.shown_eq_nil_iff).mp hne) ?_
  · rw [List.getLast?_map, Expression.getLast?_shown]
    intro h
    obtain ⟨v, hv, hempty⟩ := Option.map_eq_some_iff.mp h
    rw [(element_eq_nil_iff hk (hvs v (List.mem_of_getLast? hv))).mp hempty] at hv
    exact hlast hv

end Element

/-! ### Parameters with one variable -/

/-- The template of a value that is a single variable. -/
def placeholderTemplate (c : Charset) (decodeSlash : Bool) {x : Text} (hx : IsPlainName x) :
    Template :=
  ⟨placeholder x, valueSettings c decodeSlash, [.expression (named x hx.ne_nil)]⟩

section AsciiCompatible

variable {c : Charset} {k : Codec} (hc : c.codec = .ok k) {x : Text} (hx : IsPlainName x)

include hc in
theorem parseAll_placeholder (decodeSlash : Bool) :
    parseAll (valueSettings c decodeSlash) [placeholder x]
      = .ok [placeholderTemplate c decodeSlash hx] := by
  simp only [parseAll, Template.parse,
    Template.normalize_eq_self hc (s := valueSettings c decodeSlash) rfl,
    Template.parseFragment_placeholder _ hx, bind_ok, placeholderTemplate]

/-- The values are the parts of the rendered value between its commas. -/
theorem expandValues_placeholder {decodeSlash : Bool} {v : Value} {w : Text}
    (hv : v.isNull = false) (hw : Expression.render true c v = .ok w) :
    expandValues (.single x v) [placeholderTemplate c decodeSlash hx]
      = .ok (valuesOf (slashed decodeSlash w)) := by
  have hexpand : (placeholderTemplate c decodeSlash hx).expand (.single x v)
      = .ok (some (slashed decodeSlash w)) := by
    rw [placeholderTemplate, Template.expand_placeholder (c := c) (w := w) hx.ne_nil _ rfl rfl
      (by simpa using hv) (by simpa using hw)]
    cases decodeSlash <;> rfl
  simp only [expandValues, hexpand, bind_ok, Option.map_some, Option.getD_some, List.append_nil]

variable (hk : k.IsAsciiCompatible)

include hc hx hk

/-- An exploded parameter with one variable has a pair for each of the values. -/
theorem exists_create_placeholder (decodeSlash : Bool) {n : Text} (hn : IsVerbatim c n) :
    ∃ q field, create n [some (placeholder x)] c .exploded decodeSlash = .ok q ∧
      (∀ y ∈ field, isParameterChar y = true) ∧
        ∀ {v w us}, v.isNull = false → Expression.render true c v = .ok w →
          valuesOf (slashed decodeSlash w) = us → us ≠ [] →
            (∀ u ∈ us, ∀ y ∈ u, isParameterChar y = true) → q.expand (.single x v)
              = .ok (some (['&'].intercalate (pairs field
                (us.map (encoded isQueryParamSafe k))))) := by
  have hencode : ∀ {u : Text}, (∀ y ∈ u, y.toNat < 0x80) →
      Percent.queryParamEncode c u = .ok (encoded isQueryParamSafe k u) := fun hu =>
    Percent.encodeUnlessEncoded_eq hc hk isQueryParamSafe (Codec.encodes_of_ascii hk hu)
  obtain ⟨nameTemplate, hname, hnamed⟩ := Template.expand_literal hc hk (s := nameSettings c) rfl rfl
    hn.ne_nil hn.no_brace (Percent.hasEscape_of_notMem hn.no_percent)
    ((Charset.canEncode_iff hc hk).mp hn.bytes)
  have hfield := hencode (u := quote Percent.isReserved (k.textBytes n)) fun y hy => by
    simpa [Percent.isAscii] using Percent.isAscii_of_mem_quote hy
  have hcreate : create n [some (placeholder x)] c .exploded decodeSlash
      = .ok ⟨nameTemplate, [placeholderTemplate c decodeSlash hx], c, .exploded, decodeSlash⟩ := by
    have hgiven : given [some (placeholder x)] = [placeholder x] := given_placeholders [x]
    rw [create, if_neg hn.ne_nil, Charset.orUtf8_eq_self hc, hgiven]
    simp only [hname, parseAll_placeholder hc hx, bind_ok]
  refine ⟨_, _, hcreate, Percent.isParameterChar_of_encode hfield
    (Percent.discerns_of_isAsciiCompatible ⟨k, hc, hk⟩ _), ?_⟩
  intro v w us hv hw hus hne hall
  have hencoded : List.Forall₂ (fun u t => Percent.queryParamEncode c u = .ok t) us
      (us.map (encoded isQueryParamSafe k)) := by
    rw [List.forall₂_map_right_iff, List.forall₂_same]
    exact fun u hu => hencode fun y hy => Percent.ascii_of_isParameterChar (hall u hu y hy)
  rw [expand_of_values (hnamed _) rfl (expandValues_placeholder hx hv hw), hus, if_neg hne,
    CollectionFormat.join_eq_ok hc hk .exploded hne hfield hencoded]
  rfl

end AsciiCompatible

/-! ### Lists -/

/-- **An exploded parameter has a pair for each element of a list, the one that the element makes on
its own.** If the first two elements are empty, there is one more such pair in front. -/
theorem pieces_expand_list {c : Charset} (hcharset : c.IsAsciiCompatible) (decodeSlash : Bool)
    {n x : Text} (hn : IsVerbatim c n) (hx : IsPlainName x) {vs : List Text} (hne : vs ≠ [])
    (hlast : vs.getLast? ≠ some []) (hvs : ∀ v ∈ vs, c.CanEncode v) : ∃ q r,
      create n [some (placeholder x)] c .exploded decodeSlash = .ok q ∧
        q.expand (.single x (.list (vs.map .text))) = .ok (some r) ∧
          List.Forall₂ (fun v piece => q.expand (.single x (.text v)) = .ok (some piece))
            (if vs.take 2 = [[], []] then [] :: vs else vs) (Text.pieces '&' r) := by
  obtain ⟨k, hc, hk⟩ := hcharset
  have hencodes : ∀ v ∈ vs, k.Encodes v := fun v hv => (Charset.canEncode_iff hc hk).mp (hvs v hv)
  have hshown : (if vs.take 2 = [[], []] then [] :: vs else vs) = shown vs := by
    have hsingle : vs ≠ [[]] := fun h => hlast (by rw [h]; rfl)
    simp only [shown, hsingle, false_or]
  have hne' : (shown vs).map (element k decodeSlash) ≠ [] :=
    mt (List.map_eq_nil_iff.trans Expression.shown_eq_nil_iff).mp hne
  obtain ⟨q, field, hq, hfield, hexpand⟩ := exists_create_placeholder hc hx hk decodeSlash hn
  have hscalar : ∀ v ∈ shown vs, q.expand (.single x (.text v)) = .ok (some
      (field ++ '=' :: encoded isQueryParamSafe k (element k decodeSlash v))) := by
    intro v hv
    have hv' : k.Encodes v := by
      rcases Expression.mem_shown hv with rfl | hv
      · exact Codec.encodes_nil k
      · exact hencodes v hv
    rw [hexpand (v := .text v) rfl (Percent.encodeUnlessEncoded_eq hc hk noneSafe hv')
      (valuesOf_eq_singleton_iff.mpr (comma_notMem_element v)) (by simp)
      (List.forall_mem_singleton.mpr isParameterChar_of_mem_element)]
    simp only [pairs, List.map_cons, List.map_nil, List.intercalate_singleton]
    rfl
  have hlist : Expression.render true c (.list (vs.map .text))
      = .ok (Expression.joinElements (vs.map (encoded noneSafe k))) := by
    rw [Expression.render, Expression.renderItems_texts hc hk hencodes, bind_ok]
  refine ⟨q, _, hq, hexpand rfl hlist (valuesOf_joinElements hk hne hlast hencodes) hne'
    (List.forall_mem_map.mpr fun v _ => isParameterChar_of_mem_element), ?_⟩
  have hall : ∀ t ∈ field :: ((shown vs).map (element k decodeSlash)).map
      (encoded isQueryParamSafe k), ∀ y ∈ t, y.toNat < 0x80 → isParameterChar y = true := by
    refine List.forall_mem_cons.mpr ⟨fun y hy _ => hfield y hy, ?_⟩
    refine List.forall_mem_map.mpr fun u _ y hy _ => ?_
    rw [isParameterChar, Bool.or_eq_true]
    exact Percent.mem_encoded hy
  rw [hshown, CollectionFormat.pieces_pairs (by simpa using hne') hall, pairs, List.map_map,
    List.map_map, List.forall₂_map_right_iff, List.forall₂_same]
  exact hscalar

/-- Empty elements at the front and in the middle make empty pairs. -/
theorem pieces_expand_list_tags : ∃ q r,
    create "tag" [some (placeholder "tags")] .utf8 .exploded true = .ok q ∧
      q.expand (.single "tags" (.list (["", "a/b", "", "", "c,d"].map .text))) = .ok (some r) ∧
        List.Forall₂ (fun v piece => q.expand (.single "tags" (.text v)) = .ok (some piece))
          ["", "a/b", "", "", "c,d"] (Text.pieces '&' r) := by
  have hc := Charset.isAsciiCompatible_utf8
  have hn : IsVerbatim .utf8 "tag" := isVerbatim_of_isUnreserved hc (by decide) (by decide)
  have hx : IsPlainName "tags" := Expression.isPlainName_of_identifier (by decide) (by decide)
  have hne : (["", "a/b", "", "", "c,d"] : List Text) ≠ [] := by decide
  exact pieces_expand_list hc true hn hx hne (by decide) fun v _ => Charset.canEncode_utf8 v

/-- A list does not always have as many pairs as elements: two empty tags and a third one make four
pairs, the first three of them empty. -/
theorem not_pieces_expand_list : ¬ ∀ (c : Charset) (decodeSlash : Bool) (vs : List Text),
    c.IsAsciiCompatible → vs ≠ [] → vs.getLast? ≠ some [] → (∀ v ∈ vs, c.CanEncode v) → ∃ q r,
      create "p" [some (placeholder "x")] c .exploded decodeSlash = .ok q ∧
        q.expand (.single "x" (.list (vs.map .text))) = .ok (some r) ∧
          List.Forall₂ (fun v piece => q.expand (.single "x" (.text v)) = .ok (some piece))
            vs (Text.pieces '&' r) := by
  intro h
  obtain ⟨q, r, hq, hr, hpieces⟩ := h .utf8 true ["", "", "a"] Charset.isAsciiCompatible_utf8
    (by decide) (by decide) fun v _ => Charset.canEncode_utf8 v
  have hrun : (create "p" [some (placeholder "x")] .utf8 .exploded true).toOption.any (fun q =>
      (q.expand (.single "x" (.list (["", "", "a"].map .text)))).toOption
        = some (some "p=&p=&p=&p=a".toList)) = true := by
    decide +kernel
  obtain ⟨q', hq', hexpand⟩ := exists_ok_of_any hrun
  obtain rfl : q = q' := Except.ok.inj (hq.symm.trans hq')
  have hr' := toOption_eq_some_iff.mp (of_decide_eq_true hexpand)
  obtain rfl : r = "p=&p=&p=&p=a".toList := Option.some.inj (Except.ok.inj (hr.symm.trans hr'))
  exact absurd hpieces.length_eq (by decide)

end QueryTemplate

end HttpTemplates
