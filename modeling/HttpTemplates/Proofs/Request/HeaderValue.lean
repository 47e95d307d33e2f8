import HttpTemplates.Proofs.Header.Expansion
import HttpTemplates.Proofs.Request.Accumulation
import HttpTemplates.Proofs.Request.Resolution

/-!
# The value that is sent for a header

The name and the values of a header are expanded as one text, and the value is what stands behind as
many characters as the name has and one more. That is where the value begins if the name comes out of
the expansion as it is. **So a header is sent with the values it was given if and only if the cut falls
behind the expanded name, on blanks at most** (`RequestTemplate.resolve_withHeader_iff`). A name without
an opening brace and with one comma at most is measured that way (`HeaderTemplate.isMeasured_of_count`).
A name with an expression, of which nothing is left, is not: the cut falls into the value, of which the
front or everything is lost.
-/

namespace HttpTemplates

open BodyTemplate (tokensText)
open Template (decodeSlashes)
open Token (openBrace closeBrace)

/-! ### Trimming behind a cut -/

namespace Text

theorem trim_append_of_blank {p : Text} (hp : ∀ c ∈ p, isBlank c = true) (t : Text) :
    trim (p ++ t) = trim t := by
  rw [trim, List.dropWhile_append_of_pos hp, trim]

variable {t : Text}

/-- Trimming uncovers a trimmed text if nothing but blanks stands in front of it. -/
theorem trim_append_eq_iff (hne : t ≠ []) (htrim : trim t = t) {p : Text} :
    trim (p ++ t) = t ↔ ∀ c ∈ p, isBlank c = true := by
  refine ⟨fun h => ?_, fun h => by rw [trim_append_of_blank h, htrim]⟩
  obtain ⟨a, b, hsplit, ha, hb⟩ := exists_trim (p ++ t)
  rw [h] at hsplit
  -- The text does not end with a blank, so nothing is removed behind it.
  have hend : b = [] := by
    by_contra hbne
    have hlast := congrArg List.getLast? hsplit
    rw [List.getLast?_append_of_ne_nil _ hne, List.getLast?_append_of_ne_nil _ hbne,
      List.getLast?_eq_some_getLast hbne] at hlast
    have hink := (trim_eq_self_iff.mp htrim).2 _ hlast
    rw [hb _ (List.getLast_mem hbne)] at hink
    exact absurd hink (by simp)
  rw [hend, List.append_nil] at hsplit
  rw [List.append_cancel_right hsplit]
  exact ha

/-- Cutting and trimming uncover a trimmed text if the cut falls in front of it and leaves nothing but
blanks there. -/
theorem trim_drop_append_eq_iff (hne : t ≠ []) (htrim : trim t = t) {front : Text} {n : Nat} :
    trim ((front ++ t).drop n) = t ↔
      n ≤ front.length ∧ (front.drop n).all isBlank = true := by
  by_cases hn : n ≤ front.length
  · rw [List.drop_append_of_le_length hn, trim_append_eq_iff hne htrim, List.all_eq_true]
    simp [hn]
  · -- The cut falls into the text, so too little is left.
    have hpos : 0 < t.length := List.length_pos_iff.mpr hne
    have hle := (trim_sublist ((front ++ t).drop n)).length_le
    rw [List.length_drop, List.length_append] at hle
    refine ⟨fun h => ?_, fun h => absurd h.1 hn⟩
    rw [h] at hle
    omega

/-- A joined list of trimmed texts is trimmed. -/
theorem trim_intercalate (sep : Text) {ts : List Text} (h : ∀ t ∈ ts, t ≠ [] ∧ trim t = t) :
    trim (sep.intercalate ts) = sep.intercalate ts ∧ (ts ≠ [] → sep.intercalate ts ≠ []) := by
  induction ts with
  | nil => exact ⟨rfl, fun hnil => absurd rfl hnil⟩
  | cons t ts ih =>
      obtain ⟨⟨hne, htrim⟩, hts⟩ := List.forall_mem_cons.mp h
      cases ts with
      | nil => simpa using ⟨htrim, hne⟩
      | cons u us =>
          obtain ⟨hrest, hrestne⟩ := ih hts
          have hback := hrestne (by simp)
          obtain ⟨hhead, -⟩ := trim_eq_self_iff.mp htrim
          obtain ⟨-, hlast⟩ := trim_eq_self_iff.mp hrest
          rw [List.intercalate_cons_cons]
          refine ⟨trim_eq_self_iff.mpr ⟨fun c hc => hhead c ?_, fun c hc => hlast c ?_⟩, by simp [hne]⟩
          · rwa [List.append_assoc, List.head?_append_of_ne_nil _ hne] at hc
          · rwa [List.getLast?_append_of_ne_nil _ hback] at hc

end Text

namespace HeaderTemplate

variable {name : Text} {values : List Text}

/-! ### What stands in front of the value -/

/-- What becomes of the name of a header and of the space behind it if no variable is bound. -/
def lead (name : Text) : Text :=
  spaceCommas (tokensText decodeSlashes .empty (name ++ [' ']))

/-- As many characters as the name has and one more end in front of the value, with nothing but blanks
in between. -/
def IsMeasured (name : Text) : Prop :=
  name.length + 1 ≤ (lead name).length ∧
    ((lead name).drop (name.length + 1)).all Text.isBlank = true

instance : DecidablePred IsMeasured := fun name =>
  inferInstanceAs (Decidable (name.length + 1 ≤ (lead name).length ∧
    ((lead name).drop (name.length + 1)).all Text.isBlank = true))

/-- A name without an opening brace and with one comma at most is measured. -/
theorem isMeasured_of_count (hbrace : openBrace ∉ name) (hcomma : name.count ',' ≤ 1) :
    IsMeasured name := by
  have hspace : openBrace ∉ [' '] := by decide
  have hlead : lead name = spaceCommas name ++ [' '] := by
    rw [lead, BodyTemplate.tokensText_literal (by simp [hbrace, hspace]), spaceCommas_append]
    rfl
  have hlength := length_spaceCommas name
  rw [IsMeasured, hlead, List.length_append, List.drop_append, List.all_eq_true]
  refine ⟨by simp [hlength], fun c hc => ?_⟩
  -- The cut falls on the space at the end or behind it.
  rw [List.drop_eq_nil_of_le (by omega), List.nil_append] at hc
  obtain rfl : c = ' ' := List.mem_singleton.mp (List.mem_of_mem_drop hc)
  rfl

/-- Of an expression in the name nothing is left, so the cut falls behind the expanded name. -/
example : ¬ IsMeasured "X-\x7bid\x7d" := by decide +kernel

/-! ### Expansion -/

/-- A value that is sent as it is: there is something in it, but no brace and no comma, and no blanks
are around it. -/
structure IsFieldValue (v : Text) : Prop where
  hasInk : Text.hasInk v = true
  trim_eq : Text.trim v = v
  openBrace_notMem : openBrace ∉ v
  closeBrace_notMem : closeBrace ∉ v
  comma_notMem : ',' ∉ v

section FieldValues

variable (hvalues : ∀ v ∈ values, IsFieldValue v)

include hvalues

theorem given_fieldValues : given (values.map some) = values.eraseDups := by
  have hall : (values.map some).filterMap id = values := by simp
  rw [given, hall, List.filter_eq_self.mpr fun v hv => (hvalues v hv).hasInk, distinct_eq_eraseDups]

theorem isFieldValue_eraseDups : ∀ v ∈ values.eraseDups, IsFieldValue v :=
  fun v hv => hvalues v (List.mem_eraseDups.mp hv)

theorem trim_fieldValues : ∀ v ∈ values, v ≠ [] ∧ Text.trim v = v := by
  intro v hv
  refine ⟨?_, (hvalues v hv).trim_eq⟩
  rintro rfl
  exact absurd (hvalues [] hv).hasInk (by simp)

/-- The values stand unchanged behind what becomes of the name. -/
theorem tokensText_fieldValues (name : Text) :
    ∃ front, tokensText decodeSlashes .empty (name ++ [' ']) = front ++ [' '] ∧
      tokensText decodeSlashes .empty (name ++ ' ' :: [','].intercalate values)
        = front ++ ' ' :: [','].intercalate values := by
  obtain ⟨front, hfront⟩ : ∃ front, ∀ t, t ≠ [] → openBrace ∉ t ∧ closeBrace ∉ t →
      tokensText decodeSlashes .empty (name ++ t) = front ++ t :=
    BodyTemplate.exists_tokensText_append name
  have hplain : ∀ {b : Char}, b ≠ ' ' → b ≠ ',' → (∀ v ∈ values, b ∉ v) →
      b ∉ ' ' :: [','].intercalate values := by
    intro b hspace hcomma hb hmem
    rcases List.mem_cons.mp hmem with rfl | hmem
    · exact hspace rfl
    · rcases Text.mem_intercalate hmem with rfl | ⟨v, hv, hmem⟩
      · exact hcomma rfl
      · exact hb v hv hmem
  refine ⟨front, hfront [' '] (by simp) (by decide), hfront _ (by simp) ⟨?_, ?_⟩⟩
  · exact hplain (by decide) (by decide) fun v hv => (hvalues v hv).openBrace_notMem
  · exact hplain (by decide) (by decide) fun v hv => (hvalues v hv).closeBrace_notMem

/-- A header of such values expands to what becomes of its name and to the values. -/
theorem expand_fieldValues {c : Charset} {h : HeaderTemplate}
    (hh : create name (values.map some) c = .ok h) :
    h.expand .empty = .ok (some (lead name ++ [',', ' '].intercalate values.eraseDups)) := by
  have hkept := isFieldValue_eraseDups hvalues
  obtain ⟨front, hfront, htokens⟩ := tokensText_fieldValues hkept name
  have hcomma : ∀ v ∈ values.eraseDups, ',' ∉ v := fun v hv => (hkept v hv).comma_notMem
  -- No value is empty, so none is dropped at the end.
  have hall : values.eraseDups.rdropWhile (· = []) = values.eraseDups := by
    refine List.rdropWhile_eq_self_iff.mpr fun hne => ?_
    simpa using (trim_fieldValues hkept _ (List.getLast_mem hne)).1
  have hsource : source name (values.map some) = name ++ ' ' :: [','].intercalate values.eraseDups :=
    by rw [source, given_fieldValues hvalues]
  have hspace : spaceCommas [' '] = [' '] := rfl
  rw [expand_eq hh (fun _ _ => Or.inl rfl) (by rw [hsource, htokens]; simp), hsource, htokens,
    spaceCommas_dropEnd hcomma, hall, lead, hfront, spaceCommas_append, hspace, List.append_assoc,
    List.singleton_append]

end FieldValues

end HeaderTemplate

/-! ### Resolving -/

namespace RequestTemplate

open HeaderTemplate (lead IsMeasured IsFieldValue)

variable {name : Text} {values : List Text} {c : Charset} {f : Option CollectionFormat}
variable {d : Option Bool} {t : RequestTemplate}

/-- What is sent for a header with these values. -/
def sentValue (name : Text) (values : List Text) : Text :=
  Text.trim ((lead name ++ [',', ' '].intercalate values.eraseDups).drop (name.length + 1))

/-- The first header of a template is created of its name and values. -/
theorem exists_of_withHeader {values : List (Option Text)} (hne : values ≠ [])
    (ht : (initial c f d).withHeader name values = .ok t) :
    ∃ h, HeaderTemplate.create name values c = .ok h ∧
      t = { initial c f d with headers := [h] } := by
  unfold withHeader at ht
  split at ht
  · cases ht
  · obtain ⟨⟨headers, found⟩, hheaders, ht⟩ := bind_eq_ok_iff.mp ht
    cases hheaders
    obtain ⟨h, hh, ht⟩ := bind_eq_ok_iff.mp ht
    exact ⟨h, hh, (Except.ok.inj ht).symm⟩

/-- **A header is sent with the values it was given if and only if its name is measured.** In any case
the value is what stands behind the cut, and there is no header if that is empty. -/
theorem resolve_withHeader_iff (hne : values ≠ []) (hvalues : ∀ v ∈ values, IsFieldValue v)
    (ht : (initial c f d).withHeader name (values.map some) = .ok t) :
    ∃ r url headers, t.resolve .empty = .ok r ∧ r.resolution = some ⟨url, headers⟩ ∧
      headers = (if sentValue name values = [] then [] else [(name, [sentValue name values])]) ∧
      (headers = [(name, [[',', ' '].intercalate values.eraseDups])] ↔ IsMeasured name) := by
  obtain ⟨h, hh, rfl⟩ := exists_of_withHeader (by simpa using hne) ht
  have hname : h.name = name := (HeaderTemplate.create_eq_ok_iff.mp hh).2.1
  have hvalue : expandHeader .empty h = .ok (sentValue name values) := by
    rw [expandHeader, HeaderTemplate.expand_fieldValues hvalues hh, hname]
    rfl
  have hheaders : expandHeaders .empty [h]
      = .ok (if sentValue name values = [] then [] else [(name, [sentValue name values])]) := by
    rw [expandHeaders, hvalue, hname]
    rfl
  refine ⟨_, _, _, resolve_eq_ok_iff.mpr ⟨_, _, none, rfl, hheaders, rfl, rfl⟩, rfl, rfl, ?_⟩
  obtain ⟨htrim, hjoined⟩ := Text.trim_intercalate [',', ' ']
    (HeaderTemplate.trim_fieldValues (HeaderTemplate.isFieldValue_eraseDups hvalues))
  have hkept : values.eraseDups ≠ [] := by
    obtain ⟨v, hv⟩ := List.exists_mem_of_ne_nil _ hne
    exact List.ne_nil_of_mem (List.mem_eraseDups.mpr hv)
  have hcut : sentValue name values = [',', ' '].intercalate values.eraseDups ↔ IsMeasured name :=
    Text.trim_drop_append_eq_iff (hjoined hkept) htrim
  rw [← hcut]
  split
  · next hempty => simp [hempty, (hjoined hkept).symm]
  · simp

/-- Media types are sent behind the name that they are given for, each of them once. -/
theorem resolve_withHeader_accept : ∃ t r url,
    (initial .utf8 (some .exploded) (some true)).withHeader "Accept"
        (["text/html", "text/plain", "text/html"].map some) = .ok t ∧
      t.resolve .empty = .ok r ∧
      r.resolution = some ⟨url, [("Accept", ["text/html, text/plain"])]⟩ := by
  have hvalues : ∀ v ∈ (["text/html", "text/plain", "text/html"] : List Text), IsFieldValue v := by
    simp only [List.forall_mem_cons]
    refine ⟨?_, ?_, ?_, by simp⟩ <;> exact ⟨by decide, by decide, by decide, by decide, by decide⟩
  have hrun : ((initial .utf8 (some .exploded) (some true)).withHeader "Accept"
      (["text/html", "text/plain", "text/html"].map some)).toOption.any (fun _ => true) = true := by
    decide +kernel
  obtain ⟨t, ht, -⟩ := exists_ok_of_any hrun
  obtain ⟨r, url, headers, hr, hresolution, -, hiff⟩ :=
    resolve_withHeader_iff (by decide) hvalues ht
  have hheaders := hiff.mpr (HeaderTemplate.isMeasured_of_count (by decide) (by decide))
  rw [hheaders] at hresolution
  exact ⟨t, r, url, ht, hr, hresolution⟩

/-- What is sent for a header depends on its name: a header whose name holds an expression is not sent
although its value is not empty. -/
theorem not_resolve_withHeader : ¬ ∀ (name : Text) (values : List Text) (t : RequestTemplate),
    name ≠ [] → values ≠ [] →
      (∀ v ∈ values, IsFieldValue v ∧ Template.decodeSlashes v = v) →
        (initial .utf8 (some .exploded) (some true)).withHeader name (values.map some) = .ok t →
          ∃ r url, t.resolve .empty = .ok r ∧ r.resolution =
            some ⟨url, [(name, [[',', ' '].intercalate values.eraseDups])]⟩ := by
  intro hall
  have hrun : ((initial .utf8 (some .exploded) (some true)).withHeader "X-\x7bid\x7d"
      [some "7"]).toOption.any (fun t => (t.resolve .empty).toOption.any fun r =>
        r.resolution.any fun resolution => resolution.headers = []) = true := by
    decide +kernel
  obtain ⟨t, ht, hresolve⟩ := exists_ok_of_any hrun
  obtain ⟨r, hr, hresolution⟩ := exists_ok_of_any hresolve
  have hvalues : ∀ v ∈ (["7"] : List Text), IsFieldValue v ∧ Template.decodeSlashes v = v := by
    simp only [List.forall_mem_singleton]
    exact ⟨⟨by decide, by decide, by decide, by decide, by decide⟩, by decide⟩
  obtain ⟨r', url, hr', hheaders⟩ :=
    hall "X-\x7bid\x7d" ["7"] t (by decide) (by decide) hvalues ht
  obtain rfl : r = r' := Except.ok.inj (hr.symm.trans hr')
  rw [hheaders] at hresolution
  exact absurd hresolution (by simp)

end RequestTemplate

end HttpTemplates
