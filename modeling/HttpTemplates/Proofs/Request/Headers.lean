import HttpTemplates.Proofs.Request.Accumulation
import HttpTemplates.Proofs.Request.Resolution

/-!
# Header names

A builder finds a header whatever the letter case of its name, so no two headers of a template have
names that differ in letter case only (`nodup_headerKeys_run`). The headers that the variables are
filled into are some of them, with one value each (`exists_fields_of_resolve`), and as their names
differ, the request has each of them (`Fields.ofList_eq_self`).
-/

namespace HttpTemplates

/-! ### Fields with different names -/

namespace Fields

variable {α : Type}

/-- A new name comes last. -/
theorem insert_of_notMem {fields : Fields α} {name : Text} (value : α)
    (h : name ∉ fields.map (·.1)) : fields.insert name value = fields ++ [(name, value)] := by
  induction fields with
  | nil => rfl
  | cons p rest ih =>
      simp only [List.map_cons, List.mem_cons, not_or] at h
      rw [insert, if_neg (Ne.symm h.1), ih h.2]
      rfl

/-- Pairs with different names are fields as they are. -/
theorem ofList_eq_self {pairs : List (Text × α)} (h : (pairs.map (·.1)).Nodup) :
    ofList pairs = pairs := by
  -- What is put in already comes in front.
  have hfold : ∀ (rest : List (Text × α)) (fields : Fields α),
      ((fields ++ rest).map (·.1)).Nodup →
        rest.foldl (fun fields p => fields.insert p.1 p.2) fields = fields ++ rest := by
    intro rest
    induction rest with
    | nil => simp
    | cons p rest ih =>
        intro fields h
        have hnew : p.1 ∉ fields.map (·.1) := by
          rw [List.map_append, List.nodup_append] at h
          intro hmem
          exact h.2.2 _ hmem _ (by simp) rfl
        rw [List.foldl_cons, insert_of_notMem _ hnew, ih _ (by simpa using h)]
        simp
  exact hfold pairs [] h

end Fields

namespace Change

/-- If the step keeps the key, the keys are the same as before. -/
theorem Updates.map_key {κ β : Type} [DecidableEq κ] {key : β → κ} {k : κ} {step : β → β → Prop}
    {bs bs' : List β} (hbs : Updates key k step bs bs')
    (hstep : ∀ b b', step b b' → key b' = key b) : bs'.map key = bs.map key := by
  unfold Updates at hbs
  induction hbs with
  | nil => rfl
  | cons hb _ ih =>
      rw [List.map_cons, List.map_cons, ih]
      split at hb
      · rw [hstep _ _ hb]
      · rw [hb]

end Change

namespace RequestTemplate

open Change (updateWhere_eq_ok)

variable {t u r : RequestTemplate} {vars : Variables}

/-! ### Names in a template -/

/-- The names of the headers in lower case. -/
def headerKeys (t : RequestTemplate) : List Text :=
  t.headers.map fun h => Text.lower h.name

/-- Adding to a header keeps its name. -/
theorem lower_name_append {h h' : HeaderTemplate} {values : List (Option Text)}
    (hh : h.append values = .ok h') : Text.lower h'.name = Text.lower h.name := by
  rw [(HeaderTemplate.create_fields hh).1]

theorem nodup_headerKeys_withHeader {name : Text} {values : List (Option Text)}
    (ht : t.headerKeys.Nodup) (hu : t.withHeader name values = .ok u) : u.headerKeys.Nodup := by
  unfold withHeader at hu
  split at hu
  · exact absurd hu (by simp)
  split at hu
  · rw [← Except.ok.inj hu]
    exact (List.filter_sublist.map _).nodup ht
  obtain ⟨⟨hs, found⟩, hhs, hu⟩ := bind_eq_ok_iff.mp hu
  rw [addHeader_eq_updateWhere] at hhs
  obtain ⟨hfound, hupdates⟩ := updateWhere_eq_ok isNamed_eq hhs
  have hkeys : hs.map (fun h => Text.lower h.name) = t.headerKeys :=
    hupdates.map_key fun _ _ => lower_name_append
  cases found with
  | true =>
      rw [← Except.ok.inj hu, headerKeys, hkeys]
      exact ht
  | false =>
      obtain ⟨header, hheader, hu⟩ := bind_eq_ok_iff.mp hu
      have hnew : Text.lower header.name ∉ t.headerKeys := by
        rw [(HeaderTemplate.create_fields hheader).1, headerKeys]
        intro hmem
        obtain ⟨h, hh, heq⟩ := List.mem_map.mp hmem
        exact List.any_eq_false.mp hfound.symm h hh (decide_eq_true heq)
      rw [← Except.ok.inj hu, headerKeys, List.map_append, hkeys, List.map_singleton]
      exact List.nodup_append.mpr ⟨ht, List.nodup_singleton _, by
        rintro k hk _ hlast rfl
        exact hnew (List.mem_singleton.mp hlast ▸ hk)⟩

/-- **No two headers of a template have names that differ in letter case only.** -/
theorem nodup_headerKeys_run {c : Charset} {f : Option CollectionFormat} {d : Option Bool}
    {calls : List Call} (ht : (initial c f d).run calls = .ok t) : t.headerKeys.Nodup := by
  refine run_invariant (P := fun t => t.headerKeys.Nodup) ht List.nodup_nil ?_
  intro call _ v w _ hv hw
  cases call with
  | header name values => exact nodup_headerKeys_withHeader hv hw
  | _ =>
      rw [headerKeys, (apply_frame hw).headers rfl]
      exact hv

/-! ### Names in a request -/

/-- The headers with a value are some of all, in their order, and have one value each. -/
theorem exists_fields_of_expandHeaders {hs : List HeaderTemplate}
    {headers : List (Text × List Text)} (h : expandHeaders vars hs = .ok headers) :
    ∃ fields : Fields Text, headers = fields.map (fun p => (p.1, [p.2])) ∧
      (fields.map (·.1)).Sublist (hs.map (·.name)) := by
  induction hs generalizing headers with
  | nil => exact ⟨[], (Except.ok.inj h).symm, List.Sublist.refl _⟩
  | cons header hs ih =>
      obtain ⟨value, -, h⟩ := bind_eq_ok_iff.mp h
      obtain ⟨tail, htail, h⟩ := bind_eq_ok_iff.mp h
      obtain ⟨fields, rfl, hsub⟩ := ih htail
      rw [← Except.ok.inj h]
      by_cases hvalue : value = []
      · exact ⟨fields, by rw [if_pos hvalue], hsub.cons _⟩
      · exact ⟨(header.name, value) :: fields, by rw [if_neg hvalue, List.map_cons],
          hsub.cons_cons _⟩

/-- The request of a resolved template has the resolved headers, if their names differ from each
other. -/
theorem exists_fields_of_resolve (hnodup : t.headerKeys.Nodup) (hr : t.resolve vars = .ok r)
    (timeout : Option Timeout) :
    ∃ (url : Text) (fields : Fields Text) (req : Request),
      r.resolution = some ⟨url, fields.map fun p => (p.1, [p.2])⟩ ∧
      r.request timeout = .ok req ∧ req.url = url ∧ req.timeout = timeout ∧
      req.headers = fields.map (fun p => (p.1, [p.2])) ∧
      (fields.map (·.1)).Sublist (t.headers.map (·.name)) ∧
      (fields.map fun p => Text.lower p.1).Nodup := by
  obtain ⟨url, headers, body, -, hheaders, -, rfl⟩ := resolve_eq_ok_iff.mp hr
  obtain ⟨fields, rfl, hsub⟩ := exists_fields_of_expandHeaders hheaders
  have hkeys : ((fields.map (·.1)).map Text.lower).Nodup := by
    refine (hsub.map Text.lower).nodup ?_
    rw [List.map_map]
    exact hnodup
  refine ⟨url, fields, _, rfl, request_withResolution .., rfl, rfl, ?_, hsub, by
    rwa [List.map_map] at hkeys⟩
  refine Fields.ofList_eq_self ?_
  rw [List.map_map]
  exact hkeys.of_map _

end RequestTemplate

end HttpTemplates
