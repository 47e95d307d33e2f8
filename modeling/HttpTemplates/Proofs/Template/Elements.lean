import HttpTemplates.Proofs.Percent.Disguise
import HttpTemplates.Proofs.Percent.Shortcut
import HttpTemplates.Proofs.Template.Expansion
import HttpTemplates.Proofs.Template.ExpressionText
import HttpTemplates.Proofs.Text.Splitting

/-!
# The elements of a list

A list is rendered with one comma between two elements, also where one of them is empty. But whether
an element gets a comma depends on the text in front of it. That makes a difference for empty elements
at the front: **a list whose first two elements are empty, or whose only element is, is rendered as if
it had one more empty element in front** (`Expression.joinElements_eq`). Nothing else is added or left
out, and a list is rendered if all of its elements are (`Expression.expand_list_eq_ok_iff`).

Decoding the slashes leaves the commas where they are (`Template.decodeSlashes_intercalate`).
-/

namespace HttpTemplates

namespace Expression

/-! ### Elements that are shown -/

/-- The elements that a rendered list shows. -/
def shown (es : List Text) : List Text :=
  if es = [[]] ∨ es.take 2 = [[], []] then [] :: es else es

theorem mem_shown {es : List Text} {e : Text} (h : e ∈ shown es) : e = [] ∨ e ∈ es := by
  rw [shown] at h
  split at h
  · exact List.mem_cons.mp h
  · exact Or.inr h

theorem shown_eq_nil_iff {es : List Text} : shown es = [] ↔ es = [] := by
  cases es <;> simp [shown, ite_eq_iff]

theorem getLast?_shown (es : List Text) : (shown es).getLast? = es.getLast? := by
  cases es with
  | nil => rfl
  | cons e es =>
      rw [shown]
      split
      · exact List.getLast?_cons_cons
      · rfl

/-- Mapping the elements maps what is shown of them, if it leaves the empty ones empty and no
others. -/
theorem shown_map {f : Text → Text} {es : List Text} (hnil : f [] = [])
    (h : ∀ e ∈ es, f e = [] → e = []) : shown (es.map f) = (shown es).map f := by
  have hsame : (es.map f = [[]] ∨ (es.map f).take 2 = [[], []]) ↔
      (es = [[]] ∨ es.take 2 = [[], []]) := by
    have hiff : ∀ e ∈ es, f e = [] ↔ e = [] := fun e he =>
      ⟨h e he, fun hempty => by rw [hempty, hnil]⟩
    rcases es with _ | ⟨a, _ | ⟨b, es⟩⟩
    · simp
    · simp [hiff a]
    · simp [hiff a, hiff b]
  simp only [shown, hsame]
  split
  · rw [List.map_cons, hnil]
  · rfl

/-! ### Commas -/

/-- The text so far is neither empty nor a single comma, so that the next element gets a comma. -/
def Begun (pieces : List Text) : Prop :=
  pieces ≠ [] ∧ pieces ≠ [[',']]

theorem addElement_of_begun {pieces : List Text} (h : Begun pieces) (e : Text) :
    addElement pieces e = (',' :: e) :: pieces := by
  rw [addElement]
  split
  · next he => rw [he]
  · rw [if_neg (by simp [h.1, h.2])]

theorem Begun.cons {pieces : List Text} (h : Begun pieces) (p : Text) : Begun (p :: pieces) :=
  ⟨by simp, fun heq => h.1 (List.cons.inj heq).2⟩

/-- From then on every element gets one, whether it is empty or not. -/
theorem foldl_addElement {pieces : List Text} (h : Begun pieces) (es : List Text) :
    (es.foldl addElement pieces).reverse.flatten
      = pieces.reverse.flatten ++ es.flatMap (',' :: ·) := by
  induction es generalizing pieces with
  | nil => simp
  | cons e es ih =>
      rw [List.foldl_cons, addElement_of_begun h, ih (h.cons _)]
      simp

/-- **The elements are shown with a comma between any two of them.** -/
theorem joinElements_eq {es : List Text} (h : [','] ∉ es) :
    joinElements es = [','].intercalate (shown es) := by
  -- The text has begun after the first element that is not empty, or after two empty ones.
  rcases es with _ | ⟨a, es⟩
  · rfl
  have ha : a ≠ [','] := fun heq => h (heq ▸ List.mem_cons_self ..)
  by_cases hblank : a = []
  · subst hblank
    rcases es with _ | ⟨b, es⟩
    · rfl
    by_cases hblank : b = []
    · subst hblank
      have hbegun : Begun [[','], [',']] := ⟨by simp, by simp⟩
      have hshown : shown ([] :: [] :: es) = [] :: [] :: [] :: es := by simp [shown]
      rw [hshown, Text.intercalate_cons]
      exact foldl_addElement hbegun es
    · have hbegun : Begun [b, [',']] := ⟨by simp, by simp⟩
      have hshown : shown ([] :: b :: es) = [] :: b :: es := by simp [shown, hblank]
      have hstart : ([] :: b :: es).foldl addElement [] = es.foldl addElement [b, [',']] := by
        simp [addElement, hblank]
      rw [hshown, Text.intercalate_cons, joinElements, hstart, foldl_addElement hbegun es]
      simp
  · have hbegun : Begun [a] := ⟨by simp, by simp [ha]⟩
    have hshown : shown (a :: es) = a :: es := by cases es <;> simp [shown, hblank]
    have hstart : (a :: es).foldl addElement [] = es.foldl addElement [a] := by
      simp [addElement, hblank]
    rw [hshown, Text.intercalate_cons, joinElements, hstart, foldl_addElement hbegun es]
    simp

/-! ### Rendering -/

/-- Texts are encoded one by one. -/
theorem renderItems_texts {c : Charset} {k : Codec} (hc : c.codec = .ok k)
    (hk : k.IsAsciiCompatible) {vs : List Text} (hvs : ∀ v ∈ vs, k.Encodes v) :
    renderItems true c (vs.map .text) = .ok (vs.map (Percent.encoded Percent.noneSafe k)) := by
  induction vs with
  | nil => rfl
  | cons v vs ih =>
      obtain ⟨hv, hvs⟩ := List.forall_mem_cons.mp hvs
      have hhead : renderScalar true c (.text v) = .ok (Percent.encoded Percent.noneSafe k v) :=
        Percent.encodeUnlessEncoded_eq hc hk Percent.noneSafe hv
      rw [List.map_cons, renderItems, if_neg (by simp [Value.isNull]), hhead, bind_ok, ih hvs]
      rfl

/-- The elements that are something are rendered one by one. -/
theorem renderItems_eq_ok_iff {encode : Bool} {c : Charset} {items : List Value} {es : List Text} :
    renderItems encode c items = .ok es ↔
      List.Forall₂ (fun v e => renderScalar encode c v = .ok e)
        (items.filter fun v => !v.isNull) es := by
  induction items generalizing es with
  | nil => simp [renderItems, eq_comm]
  | cons v items ih =>
      rw [renderItems]
      cases hv : v.isNull with
      | true => simp [hv, ih]
      | false =>
          simp only [Bool.false_eq_true, if_false, hv, Bool.not_false, List.filter_cons_of_pos,
            bind_eq_ok_iff, Except.ok.injEq, List.forall₂_cons_left_iff, ih]
          constructor
          · rintro ⟨head, hhead, tail, htail, rfl⟩
            exact ⟨head, tail, hhead, htail, rfl⟩
          · rintro ⟨head, tail, hhead, htail, rfl⟩
            exact ⟨head, hhead, tail, htail, rfl⟩

/-- No element is a single comma once it is encoded: a text that is passed on holds an escape. -/
theorem ne_comma_of_renderScalar {c : Charset} {v : Value} {e : Text}
    (h : renderScalar true c v = .ok e) : e ≠ [','] := by
  rintro rfl
  obtain ⟨t, -, ht⟩ := bind_eq_ok_iff.mp h
  obtain ⟨hdisguised, -⟩ :=
    (Percent.mem_encodeUnlessEncoded_iff ht (by decide) rfl).mp (List.mem_singleton_self ',')
  obtain rfl : [','] = t := Percent.eq_of_isDisguised ht hdisguised
  obtain ⟨-, -, -, hescape⟩ := hdisguised.exists_bytes
  exact absurd hescape (by decide)

/-- One more comma stands in front of the elements if all of them are empty or the first two are. -/
theorem intercalate_shown (es : List Text) : [','].intercalate (shown es)
    = if es = [] ∨ (∃ e ∈ es, e ≠ []) ∧ es.take 2 ≠ [[], []] then [','].intercalate es
      else ',' :: [','].intercalate es := by
  rcases es with _ | ⟨a, _ | ⟨b, es⟩⟩
  · rfl
  · by_cases ha : a = [] <;> simp [shown, ha, List.intercalate_cons_cons]
  · by_cases ha : a = [] <;> by_cases hb : b = [] <;>
      simp [shown, ha, hb, List.intercalate_cons_cons]

/-- **A list is rendered if each of its elements is, and exactly then.** The text is that of the
elements with a comma between any two of them, with one more comma in front if the elements are all
empty, or the first two of them are. -/
theorem expand_list_eq_ok_iff {e : Expression} (he : e.regex? = none) {c : Charset}
    {items : List Value} {t : Text} : e.expand true c (.list items) = .ok t ↔
      ∃ es, List.Forall₂ (fun v w => renderScalar true c v = .ok w)
          (items.filter fun v => !v.isNull) es ∧
        t = if es = [] ∨ (∃ w ∈ es, w ≠ []) ∧ es.take 2 ≠ [[], []] then [','].intercalate es
          else ',' :: [','].intercalate es := by
  have haccepts : ∀ w, e.accepts w = .ok true := by
    intro w
    rw [accepts_eq_ok_true_iff, he]
    intro r hr
    cases hr
  have hjoin : ∀ es, List.Forall₂ (fun v w => renderScalar true c v = .ok w)
      (items.filter fun v => !v.isNull) es → joinElements es = [','].intercalate (shown es) := by
    intro es hes
    have hcomma : ∀ w ∈ es, w ≠ [','] := ((List.forall₂_and_left _ _).mp
      (hes.flip.imp fun _ _ hw => ⟨ne_comma_of_renderScalar hw, hw⟩)).1
    exact joinElements_eq fun hmem => hcomma _ hmem rfl
  rw [expand_eq_ok_iff, render, bind_eq_ok_iff]
  constructor
  · rintro ⟨⟨es, hes, h⟩, -⟩
    have hforall := renderItems_eq_ok_iff.mp hes
    exact ⟨es, hforall, by rw [← Except.ok.inj h, hjoin es hforall, intercalate_shown]⟩
  · rintro ⟨es, hforall, rfl⟩
    refine ⟨⟨es, renderItems_eq_ok_iff.mpr hforall, ?_⟩, haccepts _⟩
    rw [hjoin es hforall, intercalate_shown]

/-- Two empty elements in front of a text make three commas, and nothing makes none. -/
theorem expand_list_eq_tags : (named "tags" (by decide)).regex? = none ∧
    (named "tags" (by decide)).expand true .utf8
      (.list [.null, .text "", .text "", .text "a/b"]) = .ok ",,,a%2Fb" := by
  refine ⟨rfl, (expand_list_eq_ok_iff rfl).mpr ⟨["", "", "a%2Fb"], ?_, by decide⟩⟩
  exact .cons rfl (.cons rfl (.cons (by decide +kernel) .nil))

end Expression

/-! ### Slashes -/

namespace Template

theorem decodeSlashes_eq_nil_iff {t : Text} : decodeSlashes t = [] ↔ t = [] := by
  fun_cases decodeSlashes t <;> simp

/-- No escape of a slash reaches across a comma. -/
theorem decodeSlashes_append_comma (s t : Text) :
    decodeSlashes (s ++ ',' :: t) = decodeSlashes s ++ ',' :: decodeSlashes t := by
  fun_induction decodeSlashes s with
  | case1 => exact decodeSlashes_char (by decide) t
  | case2 rest ih => exact congrArg ('/' :: ·) ih
  | case3 c rest hescape ih =>
      rw [List.cons_append, decodeSlashes, ih, List.cons_append]
      rintro r rfl hrest
      rcases rest with _ | ⟨x, _ | ⟨y, rest⟩⟩
      · simp at hrest
      · simp at hrest
      · simp only [List.cons_append, List.cons.injEq] at hrest
        obtain ⟨rfl, rfl, -⟩ := hrest
        exact hescape rest rfl rfl

theorem decodeSlashes_intercalate (ts : List Text) :
    decodeSlashes ([','].intercalate ts) = [','].intercalate (ts.map decodeSlashes) := by
  induction ts with
  | nil => rfl
  | cons t ts ih =>
      cases ts with
      | nil => simp
      | cons u us =>
          rw [List.map_cons] at ih
          rw [List.map_cons, List.map_cons, List.intercalate_cons_cons, List.intercalate_cons_cons,
            ← ih]
          simp [decodeSlashes_append_comma]

end Template

end HttpTemplates
