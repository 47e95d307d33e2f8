import HttpTemplates.Proofs.Template.Expansion

/-!
# Constrained expressions

**When the text of a constrained expression matches its pattern.** The pattern of an expression is
checked against the rendered value, percent encoding included. If slashes stay encoded this is the
text that the expression contributes, which therefore matches. If they do not, every `%2F` of the
checked text becomes a slash afterwards, and the contribution matches exactly if the pattern also
matches the text with its slashes decoded: `meetsConstraints_iff`. A pattern that forbids slashes
shows that the two differ (`not_meetsConstraints_of_decoded`).
-/

namespace HttpTemplates

namespace Template

/-- The expression is constrained by the pattern `r` and has a value. -/
structure IsConstrained (vars : Variables) (e : Expression) (r : Regex) : Prop where
  regex : e.regex? = some r
  bound : (vars.get e.name).isNull = false

/-- The constrained expressions among the chunks contribute texts that their patterns match from
beginning to end. -/
def MeetsConstraints (vars : Variables) (cs : List Chunk) (ps : List (Option Text)) : Prop :=
  ∀ e r p, (.expression e, p) ∈ cs.zip ps → IsConstrained vars e r →
    ∃ w, p = some w ∧ r.fullMatch w = true

variable {s : Settings} {vars : Variables}

/-- A constrained expression contributes a text that its pattern has matched before its slashes
were decoded. -/
theorem contribution_of_isConstrained {e : Expression} {r : Regex} {p : Option Text}
    (he : IsConstrained vars e r) (h : expandChunk s vars (.expression e) = .ok p) :
    ∃ w, Expression.render s.encode s.charset (vars.get e.name) = .ok w ∧ r.fullMatch w = true ∧
      p = some (if s.encodeSlash then w else decodeSlashes w) := by
  obtain ⟨w, hw, rfl⟩ := (expandExpression_eq_ok_iff he.bound).mp h
  obtain ⟨hrender, haccepts⟩ := Expression.expand_eq_ok_iff.mp hw
  exact ⟨w, hrender, Expression.accepts_eq_ok_true_iff.mp haccepts r he.regex, rfl⟩

/-- Every chunk has a contribution. -/
theorem exists_contribution {cs : List Chunk} {ps : List (Option Text)} {c : Chunk}
    (h : Contributions s vars cs ps) (hc : c ∈ cs) :
    ∃ p, (c, p) ∈ cs.zip ps ∧ expandChunk s vars c = .ok p := by
  induction h with
  | nil => simp at hc
  | @cons c' p cs ps hp _ ih =>
      rcases List.mem_cons.mp hc with rfl | hc
      · exact ⟨p, by simp, hp⟩
      · obtain ⟨q, hq, hexpand⟩ := ih hc
        exact ⟨q, by simp [hq], hexpand⟩

/-! ### A template that forbids slashes -/

/-- A template whose only expression forbids slashes. -/
def slashFree : Text :=
  "\x7bv:[^/]+\x7d"

/-- A value with a slash for that expression. -/
def slashed : Variables :=
  ⟨[("v", .text "a/b")]⟩

/-- The expression of a template that is nothing else. -/
def soleExpression? (t : Template) : Option Expression :=
  match t.chunks with
  | [.expression e] => some e
  | _ => none

theorem chunks_of_soleExpression? {t : Template} {e : Expression}
    (h : t.soleExpression? = some e) : t.chunks = [.expression e] := by
  unfold soleExpression? at h
  split at h
  · next e' hchunks => rw [hchunks, Option.some.inj h]
  · simp at h

/-- The pattern of `slashFree` matches the value as long as its slash is encoded. -/
theorem parse_slashFree (encodeSlash : Bool) :
    ∃ t e r, parse slashFree { encodeSlash } = .ok t ∧ t.settings = { encodeSlash } ∧
      t.chunks = [.expression e] ∧ IsConstrained slashed e r ∧
      slashed.get e.name = .text "a/b" ∧ r.fullMatch "a%2Fb" = true ∧ r.fullMatch "a/b" = false := by
  have hrun : (parse slashFree { encodeSlash }).toOption.any (fun t =>
      t.soleExpression?.any fun e => e.name = "v".toList &&
        e.regex?.any fun r => r.fullMatch "a%2Fb" && !r.fullMatch "a/b") = true := by
    cases encodeSlash <;> decide +kernel
  obtain ⟨t, ht, hcheck⟩ := exists_ok_of_any hrun
  have hsettings : t.settings = { encodeSlash } := (parse_fields ht).2
  obtain ⟨e, hsole, hcheck⟩ := (Option.any_eq_true _ _).mp hcheck
  obtain ⟨hname, hregex⟩ := Bool.and_eq_true_iff.mp hcheck
  obtain ⟨r, hr, hmatch⟩ := (Option.any_eq_true _ _).mp hregex
  have hget : slashed.get e.name = .text "a/b" := by
    rw [of_decide_eq_true hname]
    rfl
  refine ⟨t, e, r, ht, hsettings, chunks_of_soleExpression? hsole, ⟨hr, ?_⟩,
    hget, ?_⟩
  · rw [hget]
    rfl
  · simpa using hmatch

/-- The value is checked before its slash is decoded. -/
theorem expandChunk_slashFree {e : Expression} {r : Regex} (he : IsConstrained slashed e r)
    (hget : slashed.get e.name = .text "a/b") (hmatch : r.fullMatch "a%2Fb" = true)
    (encodeSlash : Bool) : expandChunk { encodeSlash } slashed (.expression e)
      = .ok (some (if encodeSlash then "a%2Fb" else "a/b")) := by
  refine (expandExpression_eq_ok_iff he.bound).mpr ⟨"a%2Fb", ?_, ?_⟩
  · refine Expression.expand_eq_ok_iff.mpr ⟨by rw [hget]; rfl, ?_⟩
    refine Expression.accepts_eq_ok_true_iff.mpr fun r' hr' => ?_
    obtain rfl : r = r' := Option.some.inj (he.regex.symm.trans hr')
    exact hmatch
  · cases encodeSlash <;> rfl

/-! ### When the constraints are met -/

/-- **The constraints are met if and only if slashes stay encoded or every pattern also matches the
rendered text with its slashes decoded.** The rendered text itself is matched in any case. -/
theorem meetsConstraints_iff {t : Template} {out : Option Text} (h : t.expand vars = .ok out) :
    ∃ ps, Contributions t.settings vars t.chunks ps ∧ out = assembled ps ∧
      (∀ e r, .expression e ∈ t.chunks → IsConstrained vars e r → ∃ w,
        Expression.render t.settings.encode t.settings.charset (vars.get e.name) = .ok w ∧
          r.fullMatch w = true) ∧
      (MeetsConstraints vars t.chunks ps ↔ t.settings.encodeSlash = true ∨
        ∀ e r w, .expression e ∈ t.chunks → IsConstrained vars e r →
          Expression.render t.settings.encode t.settings.charset (vars.get e.name) = .ok w →
            r.fullMatch (decodeSlashes w) = true) := by
  obtain ⟨ps, hps, rfl⟩ := expand_eq_ok_iff.mp h
  refine ⟨ps, hps, rfl, ?_, ?_, ?_⟩
  · intro e r hmem he
    obtain ⟨p, -, hexpand⟩ := exists_contribution hps hmem
    obtain ⟨w, hrender, hmatch, -⟩ := contribution_of_isConstrained he hexpand
    exact ⟨w, hrender, hmatch⟩
  · intro hmeets
    cases hslash : t.settings.encodeSlash with
    | true => exact Or.inl rfl
    | false =>
        -- The contribution is the rendered text with its slashes decoded.
        refine Or.inr fun e r w hmem he hrender => ?_
        obtain ⟨p, hzip, hexpand⟩ := exists_contribution hps hmem
        obtain ⟨w', hrender', -, rfl⟩ := contribution_of_isConstrained he hexpand
        obtain rfl : w = w' := Except.ok.inj (hrender.symm.trans hrender')
        obtain ⟨u, hu, hmatch⟩ := hmeets e r _ hzip he
        rw [hslash, if_neg (by simp), Option.some.injEq] at hu
        rwa [hu]
  · intro hcond e r p hzip he
    have hexpand := List.forall₂_zip hps hzip
    obtain ⟨w, hrender, hmatch, rfl⟩ := contribution_of_isConstrained he hexpand
    refine ⟨_, rfl, ?_⟩
    split
    · exact hmatch
    · next hslash =>
        have hmem := (List.of_mem_zip hzip).1
        exact hcond.resolve_left hslash e r w hmem he hrender

/-- The constraint is met as long as the slash stays encoded. -/
theorem meetsConstraints_slashFree : ∃ t out ps, parse slashFree {} = .ok t ∧
    t.expand slashed = .ok out ∧ Contributions t.settings slashed t.chunks ps ∧
      out = assembled ps ∧ MeetsConstraints slashed t.chunks ps := by
  obtain ⟨t, e, r, ht, hsettings, hchunks, he, hget, hmatch, -⟩ := parse_slashFree true
  have hchunk := expandChunk_slashFree he hget hmatch true
  have hexpand : t.expand slashed = .ok (assembled [some "a%2Fb"]) := by
    refine expand_eq_ok_iff.mpr ⟨_, ?_, rfl⟩
    rw [hsettings, hchunks]
    exact .cons hchunk .nil
  obtain ⟨ps, hps, hout, -, hiff⟩ := meetsConstraints_iff hexpand
  exact ⟨t, _, ps, ht, hexpand, hps, hout, hiff.mpr (Or.inl (by rw [hsettings]))⟩

/-- The text `a/b` is contributed although the pattern forbids slashes. -/
theorem not_meetsConstraints_of_decoded : ∃ t ps, parse slashFree { encodeSlash := false } = .ok t ∧
    t.expand slashed = .ok (some "a/b") ∧ Contributions t.settings slashed t.chunks ps ∧
      ¬ MeetsConstraints slashed t.chunks ps := by
  obtain ⟨t, e, r, ht, hsettings, hchunks, he, hget, hmatch, hnot⟩ := parse_slashFree false
  have hps : Contributions t.settings slashed t.chunks [some "a/b"] := by
    rw [hsettings, hchunks]
    exact .cons (expandChunk_slashFree he hget hmatch false) .nil
  refine ⟨t, _, ht, expand_eq_ok_iff.mpr ⟨_, hps, by decide⟩, hps, fun hmeets => ?_⟩
  obtain ⟨w, hw, hfull⟩ := hmeets e r (some "a/b") (by simp [hchunks]) he
  rw [← Option.some.inj hw, hnot] at hfull
  exact absurd hfull (by simp)

end Template

end HttpTemplates
