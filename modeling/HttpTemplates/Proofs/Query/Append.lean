import HttpTemplates.Proofs.Query.Exploded
import HttpTemplates.Proofs.Query.Join
import HttpTemplates.Proofs.Request.SlashSetting

/-!
# Appending values to an exploded parameter

**The expansion of an exploded parameter with more values is its own expansion and that of a
parameter with the new values, joined with an ampersand** (`QueryTemplate.expand_append`). Either of
them may be missing, and then the other one is left. The longer parameter fails exactly where one of
the two does.

All three are written under the same name. So it is enough that the values of two lists of templates
are those of the one behind those of the other (`QueryTemplate.expandValues_append`), and that pairs in
two lists are joined as in one (`CollectionFormat.written_append`).
-/

namespace HttpTemplates

open Percent (queryParamEncode)

/-! ### Pairs -/

namespace CollectionFormat

/-- The pairs of a name with each of the values, joined; nothing if there are no values. -/
def written (field : Text) (ts : List Text) : Option Text :=
  if ts = [] then none else some (['&'].intercalate (pairs field ts))

/-- Two parts of a query string of which each may be missing. -/
def besides : Option Text → Option Text → Option Text
  | none, s => s
  | some r, none => some r
  | some r, some s => some (r ++ '&' :: s)

@[simp] theorem besides_none (r : Option Text) : besides r none = r := by
  cases r <;> rfl

@[simp] theorem written_nil (field : Text) : written field [] = none := rfl

/-- Pairs in two lists are joined as in one. -/
theorem written_append (field : Text) (ts us : List Text) :
    written field (ts ++ us) = besides (written field ts) (written field us) := by
  by_cases hts : ts = []
  · rw [hts, List.nil_append, written_nil, besides]
  by_cases hus : us = []
  · rw [hus, List.append_nil, written_nil, besides_none]
  rw [written, written, written, if_neg (by simp [hts]), if_neg hts, if_neg hus, besides]
  simp only [pairs, List.map_append]
  rw [Text.intercalate_append '&' (by simpa using hts) (by simpa using hus)]

/-- The expansion of an exploded parameter with these values: each of them encoded behind the
encoded name. If there are no values, the name need not have an encoding. -/
def IsWritten (c : Charset) (name : Text) (vs : List Text) (r : Option Text) : Prop :=
  ∃ field ts, (vs ≠ [] → queryParamEncode c name = .ok field) ∧
    List.Forall₂ (fun v t => queryParamEncode c v = .ok t) vs ts ∧ r = written field ts

variable {c : Charset} {name : Text} {vs ws : List Text}

theorem isWritten_nil_iff {r : Option Text} : IsWritten c name [] r ↔ r = none := by
  constructor
  · rintro ⟨field, ts, -, hts, rfl⟩
    rw [List.forall₂_nil_left_iff.mp hts, written_nil]
  · rintro rfl
    exact ⟨[], [], fun h => absurd rfl h, .nil, rfl⟩

/-- If there are values, this is what joining them gives. -/
theorem isWritten_iff_join (hne : vs ≠ []) {r : Option Text} :
    IsWritten c name vs r ↔ (exploded.join name (vs.map some) c).map some = .ok r := by
  rw [map_eq_ok_iff]
  constructor
  · rintro ⟨field, ts, hfield, hts, rfl⟩
    have hne' : ts ≠ [] := fun h => hne (List.forall₂_nil_right_iff.mp (h ▸ hts))
    refine ⟨['&'].intercalate (pairs field ts), ?_, by rw [written, if_neg hne']⟩
    rw [join, if_neg (by simp [hne]), hfield hne, bind_ok]
    simp only [separator?, explode_eq_ok hts, bind_ok, pairs]
  · rintro ⟨_, hjoin, rfl⟩
    obtain ⟨field, ts, hfield, hts, rfl⟩ := join_exploded hne hjoin
    have hne' : ts ≠ [] := fun h => hne (List.forall₂_nil_right_iff.mp (h ▸ hts))
    exact ⟨field, ts, fun _ => hfield, hts, by rw [written, if_neg hne']⟩

/-- The values of two parameters with the same name are written side by side. -/
theorem IsWritten.append {r s : Option Text} (hr : IsWritten c name vs r)
    (hs : IsWritten c name ws s) : IsWritten c name (vs ++ ws) (besides r s) := by
  by_cases hne : vs = []
  · subst hne
    rwa [isWritten_nil_iff.mp hr]
  obtain ⟨field, ts, hfield, hts, rfl⟩ := hr
  obtain ⟨field', us, hfield', hus, rfl⟩ := hs
  -- The second parameter has the same field, unless it has no values.
  have hsame : written field' us = written field us := by
    by_cases hne' : ws = []
    · subst hne'
      rw [List.forall₂_nil_left_iff.mp hus, written_nil, written_nil]
    · rw [Except.ok.inj ((hfield hne).symm.trans (hfield' hne'))]
  rw [hsame, ← written_append]
  exact ⟨field, ts ++ us, fun _ => hfield hne, List.rel_append hts hus, rfl⟩

/-- If values can be written together, then each part of them alone. -/
theorem IsWritten.of_append {r : Option Text} (h : IsWritten c name (vs ++ ws) r) :
    (∃ s, IsWritten c name vs s) ∧ ∃ s, IsWritten c name ws s := by
  obtain ⟨field, ts, hfield, hts, -⟩ := h
  have hfront := List.forall₂_take vs.length hts
  have hback := List.forall₂_drop vs.length hts
  rw [List.take_left] at hfront
  rw [List.drop_left] at hback
  exact ⟨⟨_, field, _, fun hne => hfield (by simp [hne]), hfront, rfl⟩,
    ⟨_, field, _, fun hne => hfield (by simp [hne]), hback, rfl⟩⟩

end CollectionFormat

namespace QueryTemplate

open CollectionFormat (besides IsWritten)

/-! ### Parsing -/

theorem parseAll_append {s : Template.Settings} {xs ys : List Text} {ts : List Template}
    (h : parseAll s xs = .ok ts) : parseAll s (xs ++ ys) = (parseAll s ys).map (ts ++ ·) := by
  induction xs generalizing ts with
  | nil =>
      obtain rfl := Except.ok.inj h
      rw [List.nil_append]
      cases parseAll s ys <;> rfl
  | cons x xs ih =>
      obtain ⟨t, ht, h⟩ := bind_eq_ok_iff.mp h
      obtain ⟨rest, hrest, h⟩ := bind_eq_ok_iff.mp h
      obtain rfl := Except.ok.inj h
      rw [List.cons_append, parseAll, ht, bind_ok, ih hrest]
      cases parseAll s ys <;> rfl

/-- What a parameter was made of is parsed as its name and its values again. -/
theorem IsCreated.parse_eq {q : QueryTemplate} (hq : q.IsCreated) :
    q.name.source ≠ [] ∧ q.charset.orUtf8 = q.charset ∧
      Template.parse q.name.source (nameSettings q.charset) = .ok q.name ∧
      parseAll (valueSettings q.charset q.decodeSlash) q.valueTexts = .ok q.values ∧
      given (q.valueTexts.map some) = q.valueTexts := by
  obtain ⟨name, values, c, f, keep, hq⟩ := hq
  obtain ⟨hname, hvalues, hcharset, -, rfl⟩ := create_fields hq
  unfold create at hq
  split at hq
  · exact absurd hq (by simp)
  next hne =>
    obtain ⟨n, hn, hq⟩ := bind_eq_ok_iff.mp hq
    obtain ⟨ts, hts, hq⟩ := bind_eq_ok_iff.mp hq
    rw [hname, hvalues, hcharset, ← Except.ok.inj hq]
    exact ⟨hne, Charset.orUtf8_orUtf8 c, hn, hts, given_given values⟩

section Created

variable {q : QueryTemplate} (hq : q.IsCreated) (ws : List (Option Text)) (f : CollectionFormat)

include hq

/-- A parameter that is created with the same name and settings differs in its values only. -/
theorem IsCreated.create_values : create q.name.source ws q.charset f q.decodeSlash
    = (parseAll (valueSettings q.charset q.decodeSlash) (given ws)).map
        fun us => { q with values := us, format := f } := by
  obtain ⟨hne, hcharset, hname, -, -⟩ := hq.parse_eq
  rw [create, if_neg hne, hcharset]
  simp only [hname, bind_ok]
  cases parseAll (valueSettings q.charset q.decodeSlash) (given ws) <;> rfl

/-- The values that are appended stand behind the others, which stay as they are. -/
theorem IsCreated.append_values : q.append ws (some f) q.decodeSlash
    = (parseAll (valueSettings q.charset q.decodeSlash) (given ws)).map
        fun us => { q with values := q.values ++ us, format := f } := by
  obtain ⟨-, -, -, hvalues, hgiven⟩ := hq.parse_eq
  have hall : given ((q.valueTexts ++ given ws).map some) = q.valueTexts ++ given ws := by
    rw [List.map_append, given_append, given_given, hgiven]
  rw [append, Option.getD_some, hq.create_values, hall, parseAll_append hvalues]
  cases parseAll (valueSettings q.charset q.decodeSlash) (given ws) <;> rfl

end Created

/-! ### Expansion -/

/-- The values of two lists of templates are those of the one behind those of the other. -/
theorem expandValues_append {vars : Variables} {ts us : List Template} {vs : List Text} :
    expandValues vars (ts ++ us) = .ok vs ↔
      ∃ xs ys, expandValues vars ts = .ok xs ∧ expandValues vars us = .ok ys ∧ xs ++ ys = vs := by
  induction ts generalizing vs with
  | nil => simp [expandValues]
  | cons t ts ih =>
      simp only [List.cons_append, expandValues, bind_eq_ok_iff, ih, Except.ok.injEq]
      constructor
      · rintro ⟨r, hr, _, ⟨xs, ys, hxs, hys, rfl⟩, rfl⟩
        exact ⟨_, ys, ⟨r, hr, xs, hxs, rfl⟩, hys, List.append_assoc ..⟩
      · rintro ⟨_, ys, ⟨r, hr, xs, hxs, rfl⟩, hys, rfl⟩
        exact ⟨r, hr, _, ⟨xs, ys, hxs, hys, rfl⟩, (List.append_assoc ..).symm⟩

/-- An exploded parameter with value templates fails if its name or a value cannot be expanded or, as
far as it is written, encoded. -/
theorem expand_exploded_eq_ok_iff {q : QueryTemplate} {vars : Variables} {r : Option Text}
    (hvalues : q.values ≠ []) (hformat : q.format = .exploded) : q.expand vars = .ok r ↔
      ∃ name vs, q.name.expand vars = .ok name ∧ expandValues vars q.values = .ok vs ∧
        IsWritten q.charset (name.getD []) vs r := by
  have hpure : q.isPure = false := by simpa [isPure] using hvalues
  have hwritten : ∀ name vs, (if vs = [] then Except.ok none
      else (q.format.join name (vs.map some) q.charset).map some) = .ok r ↔
        IsWritten q.charset name vs r := by
    intro name vs
    by_cases hne : vs = []
    · rw [if_pos hne, hne, CollectionFormat.isWritten_nil_iff, Except.ok.injEq, eq_comm]
    · rw [if_neg hne, hformat, CollectionFormat.isWritten_iff_join hne]
  simp only [expand, hpure, bind_eq_ok_iff, Bool.false_eq_true, if_false, hwritten]
  constructor
  · rintro ⟨name, hname, vs, hvs, h⟩
    exact ⟨name, vs, hname, hvs, h⟩
  · rintro ⟨name, vs, hname, hvs, h⟩
    exact ⟨name, hname, vs, hvs, h⟩

section Parts

variable {q : QueryTemplate} {us : List Template} (hvalues : q.values ≠ [])
  (hformat : q.format = .exploded) (hus : us ≠ []) {vars : Variables}

include hvalues hformat hus

/-- If both parts have an expansion, the whole has the two side by side. -/
theorem expand_append_values {r s : Option Text} (hr : q.expand vars = .ok r)
    (hs : expand { q with values := us } vars = .ok s) :
    expand { q with values := q.values ++ us } vars = .ok (besides r s) := by
  obtain ⟨name, vs, hname, hvs, hr⟩ := (expand_exploded_eq_ok_iff hvalues hformat).mp hr
  obtain ⟨name', ws, hname', hws, hs⟩ :=
    (expand_exploded_eq_ok_iff (q := { q with values := us }) hus hformat).mp hs
  obtain rfl : name = name' := Except.ok.inj (hname.symm.trans hname')
  exact (expand_exploded_eq_ok_iff (q := { q with values := q.values ++ us })
    (by simp [hvalues]) hformat).mpr
      ⟨name, vs ++ ws, hname, expandValues_append.mpr ⟨vs, ws, hvs, hws, rfl⟩, hr.append hs⟩

/-- If the whole has an expansion, so has each part. -/
theorem exists_expand_parts {r : Option Text}
    (h : expand { q with values := q.values ++ us } vars = .ok r) :
    (∃ s, q.expand vars = .ok s) ∧ ∃ s, expand { q with values := us } vars = .ok s := by
  obtain ⟨name, vs, hname, hvs, h⟩ := (expand_exploded_eq_ok_iff
    (q := { q with values := q.values ++ us }) (by simp [hvalues]) hformat).mp h
  obtain ⟨xs, ys, hxs, hys, rfl⟩ := expandValues_append.mp hvs
  obtain ⟨⟨r, hr⟩, s, hs⟩ := h.of_append
  exact ⟨⟨r, (expand_exploded_eq_ok_iff hvalues hformat).mpr ⟨name, xs, hname, hxs, hr⟩⟩,
    s, (expand_exploded_eq_ok_iff (q := { q with values := us }) hus hformat).mpr
      ⟨name, ys, hname, hys, hs⟩⟩

end Parts

theorem parseAll_ne_nil {s : Template.Settings} {xs : List Text} {ts : List Template}
    (hne : xs ≠ []) (h : parseAll s xs = .ok ts) : ts ≠ [] := by
  cases xs with
  | nil => exact absurd rfl hne
  | cons x xs =>
      obtain ⟨t, -, h⟩ := bind_eq_ok_iff.mp h
      obtain ⟨rest, -, h⟩ := bind_eq_ok_iff.mp h
      rw [← Except.ok.inj h]
      exact List.cons_ne_nil t rest

/-- **Values are appended to an exploded parameter as if they were a parameter of their own.** Both
are created or neither is, with the same error. Then the parameter with more values fails on those
variables on which the old one or that of the new values fails, and else gives what these two give,
side by side. -/
theorem expand_append {q : QueryTemplate} (hq : q.IsCreated) (hformat : q.format = .exploded)
    (hvalues : q.values ≠ []) {ws : List (Option Text)} (hws : given ws ≠ []) :
    SameOutcome (fun a p : QueryTemplate => ∀ vars,
      ((∃ e, a.expand vars = .error e) ↔
        (∃ e, q.expand vars = .error e) ∨ ∃ e, p.expand vars = .error e) ∧
      ∀ {r s}, q.expand vars = .ok r → p.expand vars = .ok s → a.expand vars = .ok (besides r s))
      (q.append ws (some .exploded) q.decodeSlash)
      (create q.name.source ws q.charset .exploded q.decodeSlash) := by
  rw [hq.append_values, hq.create_values]
  cases hparse : parseAll (valueSettings q.charset q.decodeSlash) (given ws) with
  | error e => exact .error e
  | ok us =>
      have hus : us ≠ [] := parseAll_ne_nil hws hparse
      refine .ok fun vars => ?_
      rw [← hformat]
      refine ⟨?_, fun hr hs => expand_append_values hvalues hformat hus hr hs⟩
      simp only [exists_error_iff, ← not_and_or]
      refine not_congr ⟨fun ⟨r, hr⟩ => exists_expand_parts hvalues hformat hus hr, ?_⟩
      rintro ⟨⟨r, hr⟩, s, hs⟩
      exact ⟨_, expand_append_values hvalues hformat hus hr hs⟩

/-- Two tags; there is no draft. -/
def twoTags : Variables :=
  ⟨[("tags", .list [.text "a", .text "b"])]⟩

/-- Values of which two are blank and one is dropped. -/
def moreTags : List (Option Text) :=
  [none, some " ", some "{draft}", some "new"]

/-- The tags in the list and the one that is left of the others. -/
theorem expand_append_tags : ∃ q a p : QueryTemplate, create "tag" [some "{tags}"] = .ok q ∧
    q.append moreTags (some .exploded) q.decodeSlash = .ok a ∧
    create q.name.source moreTags q.charset .exploded q.decodeSlash = .ok p ∧
    q.expand twoTags = .ok (some "tag=a&tag=b") ∧ p.expand twoTags = .ok (some "tag=new") ∧
    a.expand twoTags = .ok (some "tag=a&tag=b&tag=new") := by
  have hrun : (create "tag" [some "{tags}"]).toOption.any (fun q => q.format = .exploded &&
      q.values ≠ [] && (q.expand twoTags).toOption = some (some "tag=a&tag=b".toList) &&
      (create q.name.source moreTags q.charset .exploded q.decodeSlash).toOption.any
        fun p => (p.expand twoTags).toOption = some (some "tag=new".toList)) = true := by
    decide +kernel
  obtain ⟨q, hq, hrun⟩ := exists_ok_of_any hrun
  simp only [Bool.and_eq_true, decide_eq_true_eq] at hrun
  obtain ⟨⟨⟨hformat, hvalues⟩, hexpand⟩, hrun⟩ := hrun
  obtain ⟨p, hp, hadded⟩ := exists_ok_of_any hrun
  have hmore : given moreTags ≠ [] := by decide
  have happend := expand_append ⟨_, _, _, _, _, hq⟩ hformat hvalues hmore
  rw [hp] at happend
  generalize ha : q.append moreTags (some .exploded) q.decodeSlash = x at happend
  cases happend with
  | ok happend =>
      have hold := toOption_eq_some_iff.mp hexpand
      have hnew := toOption_eq_some_iff.mp (of_decide_eq_true hadded)
      exact ⟨q, _, p, hq, ha, hp, hold, hnew, (happend twoTags).2 hold hnew⟩

end QueryTemplate

end HttpTemplates
