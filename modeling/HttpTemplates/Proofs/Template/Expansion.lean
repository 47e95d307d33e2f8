import HttpTemplates.Proofs.Percent.Encoding
import HttpTemplates.Template.Basic
import Mathlib.Data.List.Forall2

/-!
# What the chunks of a template contribute

An expansion succeeds if and only if every chunk contributes something, which may be nothing at all
(`Template.expand_eq_ok_iff`). A literal contributes its text. An expression with a value contributes
the rendered value, once the pattern has accepted it, with or without its encoded slashes
(`expandExpression_eq_ok_iff`); without a value it contributes its own text or is dropped.

In a byte string whose bytes are all escaped that are not unreserved, decoding the slashes has the
effect of keeping them (`decodeSlashes_quote`).
-/

namespace HttpTemplates

/-! ### Expressions -/

namespace Expression

/-- The compiled pattern, if the expression is constrained. -/
def regex? (e : Expression) : Option Regex :=
  e.pattern.bind (·.regex)

/-- An expression accepts the texts that its pattern matches from beginning to end. -/
theorem accepts_eq_ok_true_iff {e : Expression} {t : Text} :
    e.accepts t = .ok true ↔ ∀ r, e.regex? = some r → r.fullMatch t = true := by
  cases hp : e.pattern with
  | none => simp [accepts, regex?, hp]
  | some p =>
      cases hr : p.regex with
      | none => simp [accepts, regex?, hp, Pattern.accepts, hr]
      | some r => cases hj : r.judge t <;>
          simp [accepts, regex?, hp, Pattern.accepts, hr, Regex.fullMatch, hj]

/-- Expanding renders the value and lets the text pass if the expression accepts it. -/
theorem expand_eq_ok_iff {e : Expression} {encode : Bool} {c : Charset} {v : Value} {w : Text} :
    e.expand encode c v = .ok w ↔ render encode c v = .ok w ∧ e.accepts w = .ok true := by
  simp only [expand, bind_eq_ok_iff]
  constructor
  · rintro ⟨t, ht, accepted, haccepted, h⟩
    cases accepted with
    | false => simp at h
    | true =>
        obtain rfl : t = w := by simpa using h
        exact ⟨ht, haccepted⟩
  · rintro ⟨hw, haccepted⟩
    exact ⟨w, hw, true, haccepted, rfl⟩

end Expression

/-! ### Slashes -/

namespace Template

open Percent (quote quoteByte keepsByte escapeByte noneSafe)

/-- Only a percent sign begins an encoded slash. -/
theorem decodeSlashes_char {c : Char} (hc : c ≠ '%') (rest : Text) :
    decodeSlashes (c :: rest) = c :: decodeSlashes rest := by
  rw [decodeSlashes]
  rintro r rfl
  exact absurd rfl hc

/-- Decoding slashes adds slashes and nothing else. -/
theorem mem_decodeSlashes {t : Text} {x : Char} (h : x ∈ decodeSlashes t) : x ∈ t ∨ x = '/' := by
  fun_induction decodeSlashes t with
  | case1 => exact Or.inl h
  | case2 rest ih =>
      rcases List.mem_cons.mp h with h | h
      · exact Or.inr h
      · exact (ih h).imp_left fun h => by simp [h]
  | case3 c rest _ ih =>
      rcases List.mem_cons.mp h with h | h
      · exact Or.inl (by simp [h])
      · exact (ih h).imp_left (List.mem_cons_of_mem _)

/-- Only what belongs to an escape is lost. -/
theorem mem_decodeSlashes_of_mem {t : Text} {x : Char} (hx : Percent.isPlain x = false)
    (h : x ∈ t) : x ∈ decodeSlashes t := by
  fun_induction decodeSlashes t with
  | case1 => exact h
  | case2 rest ih =>
      simp only [List.mem_cons] at h ⊢
      rcases h with rfl | rfl | rfl | h
      · exact absurd hx (by decide)
      · exact absurd hx (by decide)
      · exact absurd hx (by decide)
      · exact Or.inr (ih h)
  | case3 c rest _ ih =>
      rcases List.mem_cons.mp h with rfl | h
      · exact List.mem_cons_self ..
      · exact List.mem_cons_of_mem _ (ih h)

/-- Every escape but that of the slash stays. -/
theorem decodeSlashes_escape {h l : Char} (hh : h ≠ '%') (hl : l ≠ '%') (hne : h ≠ '2' ∨ l ≠ 'F')
    (rest : Text) :
    decodeSlashes ('%' :: h :: l :: rest) = '%' :: h :: l :: decodeSlashes rest := by
  rw [decodeSlashes, decodeSlashes_char hh, decodeSlashes_char hl]
  rintro r - heq
  obtain ⟨htwo, htail⟩ := List.cons.inj heq
  obtain ⟨hletter, -⟩ := List.cons.inj htail
  exact hne.elim (fun h => h htwo) fun h => h hletter

/-- Whether a character is a slash. -/
def isSlash (c : Char) : Bool :=
  c = '/'

theorem decodeSlashes_quoteByte (b : UInt8) (rest : Text) :
    decodeSlashes (quoteByte noneSafe b ++ rest) = quoteByte isSlash b ++ decodeSlashes rest := by
  by_cases hb : b = 0x2F
  · subst hb
    rfl
  have hlt : b.toNat < 256 := b.toNat_lt
  have hslash : b.toNat < 0x80 → Char.ofNat b.toNat ≠ '/' := fun hascii heq => by
    have hcode := Percent.toNat_ofNat_ascii _ hascii
    rw [heq] at hcode
    exact hb (UInt8.toNat_inj.mp hcode.symm)
  have hkeeps : keepsByte isSlash b = keepsByte noneSafe b := by
    rw [Bool.eq_iff_iff, Percent.keepsByte_iff, Percent.keepsByte_iff]
    exact and_congr_right fun hascii => by simp [isSlash, noneSafe, hslash hascii]
  rw [quoteByte, quoteByte, hkeeps]
  split
  · next hkept =>
      have hne : Char.ofNat b.toNat ≠ '%' := fun heq => by
        rcases (Percent.keepsByte_iff.mp hkept).2 with h | h
        · rw [heq] at h; exact absurd h (by decide)
        · simp [noneSafe] at h
      exact decodeSlashes_char hne rest
  · -- The escape of another byte has other digits than the one of a slash.
    have hhigh := Percent.isHexDigit_hexDigit (b.toNat / 16) (by omega)
    have hlow := Percent.isHexDigit_hexDigit (b.toNat % 16) (by omega)
    refine decodeSlashes_escape (Percent.ne_percent_of_isHexDigit hhigh)
      (Percent.ne_percent_of_isHexDigit hlow) ?_ rest
    by_contra hboth
    simp only [not_or, ne_eq, Decidable.not_not] at hboth
    have h1 := Percent.hexValue_hexDigit (b.toNat / 16) (by omega)
    have h2 := Percent.hexValue_hexDigit (b.toNat % 16) (by omega)
    rw [hboth.1, show Text.hexValue '2' = 2 by decide] at h1
    rw [hboth.2, show Text.hexValue 'F' = 15 by decide] at h2
    have hcode : b.toNat = (0x2F : UInt8).toNat := by
      rw [show (0x2F : UInt8).toNat = 47 from rfl]
      omega
    exact hb (UInt8.toNat_inj.mp hcode)

/-- Decoding the slashes of an encoded byte string has the effect of keeping them. -/
theorem decodeSlashes_quote (bytes : Bytes) :
    decodeSlashes (quote noneSafe bytes) = quote isSlash bytes := by
  induction bytes with
  | nil => rfl
  | cons b rest ih => rw [Percent.quote_cons, decodeSlashes_quoteByte, ih, Percent.quote_cons]

end Template

/-! ### Chunks -/

namespace Template

variable {s : Settings} {vars : Variables}

theorem expandExpression_null {e : Expression} {v : Value} (hv : v.isNull = true) :
    expandExpression s e v
      = if s.keepUnresolved then (s.encodeLiteral e.text).map some else .ok none := by
  rw [expandExpression, if_pos hv]

/-- An expression with a value contributes the text that its pattern has accepted. -/
theorem expandExpression_eq_ok_iff {e : Expression} {v : Value} (hv : v.isNull = false)
    {p : Option Text} : expandExpression s e v = .ok p ↔
      ∃ w, e.expand s.encode s.charset v = .ok w ∧
        p = some (if s.encodeSlash then w else decodeSlashes w) := by
  rw [expandExpression, if_neg (by simp [hv]), bind_eq_ok_iff]
  simp only [Except.ok.injEq, eq_comm]

/-- What the chunks of a list contribute, one after the other. -/
def Contributions (s : Settings) (vars : Variables) (cs : List Chunk) (ps : List (Option Text)) :
    Prop :=
  List.Forall₂ (fun c p => expandChunk s vars c = .ok p) cs ps

@[simp] theorem contributions_nil {ps : List (Option Text)} :
    Contributions s vars [] ps ↔ ps = [] := by
  simp [Contributions]

@[simp] theorem contributions_cons {c : Chunk} {cs : List Chunk} {ps : List (Option Text)} :
    Contributions s vars (c :: cs) ps ↔
      ∃ p qs, expandChunk s vars c = .ok p ∧ Contributions s vars cs qs ∧ ps = p :: qs :=
  List.forall₂_cons_left_iff

/-- The parts of an expansion are the contributions that are not dropped. -/
theorem expandChunks_eq_ok_iff {cs : List Chunk} {parts : List Text} :
    expandChunks s vars cs = .ok parts ↔
      ∃ ps, Contributions s vars cs ps ∧ parts = ps.flatMap Option.toList := by
  induction cs generalizing parts with
  | nil => simp [expandChunks, eq_comm]
  | cons c cs ih =>
      simp only [expandChunks, bind_eq_ok_iff, ih, contributions_cons, Except.ok.injEq]
      constructor
      · rintro ⟨p, hp, _, ⟨ps, hps, rfl⟩, rfl⟩
        exact ⟨p :: ps, ⟨p, ps, hp, hps, rfl⟩, rfl⟩
      · rintro ⟨_, ⟨p, ps, hp, hps, rfl⟩, rfl⟩
        exact ⟨p, hp, _, ⟨ps, hps, rfl⟩, rfl⟩

/-- The contributions put together; there is no text if all of them are dropped. -/
def assembled (ps : List (Option Text)) : Option Text :=
  if ps.flatMap Option.toList = [] && ps ≠ [] then none
  else some (ps.flatMap Option.toList).flatten

/-- Nothing is dropped. -/
theorem assembled_map_some (ws : List Text) : assembled (ws.map some) = some ws.flatten := by
  have hparts : (ws.map some).flatMap Option.toList = ws := by
    simp [List.flatMap_map]
  rw [assembled, hparts]
  cases ws <;> simp

/-- A template keeps the text that it was parsed from, and its settings. -/
theorem parse_fields {source : Text} {s : Settings} {t : Template} (h : parse source s = .ok t) :
    t.source = source ∧ t.settings = s.normalize := by
  obtain ⟨chunks, -, h⟩ := bind_eq_ok_iff.mp h
  rw [← Except.ok.inj h]
  exact ⟨rfl, rfl⟩

/-- **An expansion puts together what the chunks contribute.** -/
theorem expand_eq_ok_iff {t : Template} {out : Option Text} : t.expand vars = .ok out ↔
    ∃ ps, Contributions t.settings vars t.chunks ps ∧ out = assembled ps := by
  have hnil : ∀ {ps}, Contributions t.settings vars t.chunks ps → (t.chunks = [] ↔ ps = []) := by
    intro ps h
    rw [← List.length_eq_zero_iff, List.Forall₂.length_eq h, List.length_eq_zero_iff]
  simp only [expand, bind_eq_ok_iff, expandChunks_eq_ok_iff, Except.ok.injEq]
  constructor
  · rintro ⟨_, ⟨ps, hps, rfl⟩, rfl⟩
    exact ⟨ps, hps, by simp only [assembled, ne_eq, hnil hps]⟩
  · rintro ⟨ps, hps, rfl⟩
    exact ⟨_, ⟨ps, hps, rfl⟩, by simp only [assembled, ne_eq, hnil hps]⟩

/-- If expressions without a value are kept, every chunk contributes a text. -/
theorem expand_eq_ok_of_keepUnresolved {t : Template} (hkeep : t.settings.keepUnresolved = true)
    {out : Option Text} (h : t.expand vars = .ok out) : ∃ ws,
      List.Forall₂ (fun c w => expandChunk t.settings vars c = .ok (some w)) t.chunks ws ∧
        out = some ws.flatten := by
  have hsome : ∀ {c : Chunk} {p}, expandChunk t.settings vars c = .ok p → ∃ w, p = some w := by
    intro c p hp
    cases c with
    | literal w hw => exact ⟨w, (Except.ok.inj hp).symm⟩
    | expression e =>
        cases hv : (vars.get e.name).isNull with
        | true =>
            rw [expandChunk, expandExpression_null hv, if_pos hkeep] at hp
            obtain ⟨w, -, rfl⟩ := map_eq_ok_iff.mp hp
            exact ⟨w, rfl⟩
        | false =>
            obtain ⟨w, -, rfl⟩ := (expandExpression_eq_ok_iff hv).mp hp
            exact ⟨_, rfl⟩
  have hall : ∀ {cs ps}, Contributions t.settings vars cs ps → ∃ ws : List Text, ps = ws.map some ∧
      List.Forall₂ (fun c w => expandChunk t.settings vars c = .ok (some w)) cs ws := by
    intro cs ps hps
    induction hps with
    | nil => exact ⟨[], rfl, .nil⟩
    | cons hp _ ih =>
        obtain ⟨ws, rfl, hws⟩ := ih
        obtain ⟨w, rfl⟩ := hsome hp
        exact ⟨w :: ws, rfl, .cons hp hws⟩
  obtain ⟨ps, hps, rfl⟩ := expand_eq_ok_iff.mp h
  obtain ⟨ws, rfl, hws⟩ := hall hps
  exact ⟨ws, hws, assembled_map_some ws⟩

end Template

end HttpTemplates
