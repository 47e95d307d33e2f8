import HttpTemplates.Proofs.Template.Body
import HttpTemplates.Proofs.Template.Rejection

/-!
# Encoding slashes or not

The slash setting of a template is looked at last, when a value has been rendered and its pattern has
accepted it. **Expanding a text fails under both settings or under neither, and the two results are
the same texts up to slashes that one of them has encoded** (`Template.expandText_slashes`). They are
the same texts altogether if no value is rendered with an encoded slash: literals keep theirs.

Encoding the slashes of a text works character by character, so texts that are the same up to slashes
may be put together (`SameUpToSlashes.append`), whatever escape begins in one and ends in the next.
The relation is carried through an expansion chunk by chunk (`sameOutcome_expandChunks`).
-/

namespace HttpTemplates

namespace Template

/-! ### Texts up to slashes -/

/-- Every slash as an encoded one. -/
def encodeSlashes (t : Text) : Text :=
  t.flatMap fun c => if c = '/' then slashEscape else [c]

@[simp] theorem encodeSlashes_append (t u : Text) :
    encodeSlashes (t ++ u) = encodeSlashes t ++ encodeSlashes u :=
  List.flatMap_append ..

theorem encodeSlashes_decodeSlashes (t : Text) :
    encodeSlashes (decodeSlashes t) = encodeSlashes t := by
  fun_induction decodeSlashes t with
  | case1 => rfl
  | case2 rest ih =>
      -- A slash is encoded as the escape that it was decoded from.
      calc encodeSlashes ('/' :: decodeSlashes rest)
          = slashEscape ++ encodeSlashes (decodeSlashes rest) := rfl
        _ = slashEscape ++ encodeSlashes rest := by rw [ih]
        _ = encodeSlashes ('%' :: '2' :: 'F' :: rest) := rfl
  | case3 c rest _ ih =>
      rw [encodeSlashes, List.flatMap_cons, ← encodeSlashes, ih]
      rfl

/-- The texts differ in whether slashes are encoded, and in nothing else. -/
def SameUpToSlashes (a b : Text) : Prop :=
  encodeSlashes a = encodeSlashes b

namespace SameUpToSlashes

theorem refl (t : Text) : SameUpToSlashes t t :=
  Eq.refl _

theorem append {a b c d : Text} (h : SameUpToSlashes a b) (h' : SameUpToSlashes c d) :
    SameUpToSlashes (a ++ c) (b ++ d) := by
  rw [SameUpToSlashes, encodeSlashes_append, encodeSlashes_append, h, h']

theorem flatten {ts us : List Text} (h : List.Forall₂ SameUpToSlashes ts us) :
    SameUpToSlashes ts.flatten us.flatten := by
  induction h with
  | nil => exact refl []
  | cons hhead _ ih => exact hhead.append ih

end SameUpToSlashes

theorem sameUpToSlashes_decodeSlashes (t : Text) : SameUpToSlashes t (decodeSlashes t) :=
  (encodeSlashes_decodeSlashes t).symm

theorem optionRel_refl (p : Option Text) : Option.Rel SameUpToSlashes p p := by
  cases p with
  | none => exact .none
  | some t => exact .some (.refl t)

/-! ### Expanding under both settings -/

/-- The template with another slash setting. -/
def withEncodeSlash (t : Template) (encodeSlash : Bool) : Template :=
  { t with settings := { t.settings with encodeSlash } }

theorem parse_withEncodeSlash (source : Text) (s : Settings) (encodeSlash : Bool) :
    parse source { s with encodeSlash } = (parse source s).map (·.withEncodeSlash encodeSlash) :=
  bind_eq_map_bind fun _ => rfl

variable (s : Settings) (vars : Variables)

/-- A chunk contributes the same text up to slashes, or it is dropped under both settings, or it
fails with the same error. -/
theorem sameOutcome_expandChunk (c : Chunk) :
    SameOutcome (Option.Rel SameUpToSlashes) (expandChunk { s with encodeSlash := true } vars c)
      (expandChunk { s with encodeSlash := false } vars c) := by
  cases c with
  | literal t ht => exact .refl optionRel_refl _
  | expression e =>
      simp only [expandChunk, expandExpression]
      split
      · -- An expression that has no value has no slash setting either.
        exact .refl optionRel_refl _
      · refine .bind (.refl (fun _ => Eq.refl _) _) ?_
        rintro t _ rfl
        exact .ok (.some (sameUpToSlashes_decodeSlashes t))

theorem sameOutcome_expandChunks (cs : List Chunk) :
    SameOutcome (List.Forall₂ SameUpToSlashes)
      (expandChunks { s with encodeSlash := true } vars cs)
      (expandChunks { s with encodeSlash := false } vars cs) := by
  induction cs with
  | nil => exact .ok .nil
  | cons c cs ih =>
      refine .bind (sameOutcome_expandChunk s vars c) fun p q hhead => ?_
      refine .bind ih fun ts us htail => .ok ?_
      cases hhead with
      | some h => exact .cons h htail
      | none => exact htail

/-- A template expands to the same text up to slashes under both settings. -/
theorem sameOutcome_expand (t : Template) :
    SameOutcome (Option.Rel SameUpToSlashes) ((t.withEncodeSlash true).expand vars)
      ((t.withEncodeSlash false).expand vars) := by
  refine .bind (sameOutcome_expandChunks t.settings vars t.chunks) fun ts us h => .ok ?_
  cases h with
  | nil =>
      -- Every chunk has been dropped, or there are none.
      show Option.Rel _ (ite (([] : List Text) = [] && t.chunks ≠ []) none (some [])) _
      exact optionRel_refl _
  | cons hhead htail => exact .some (SameUpToSlashes.flatten (.cons hhead htail))

/-! ### Values without slashes -/

/-- A value for the expression is rendered without an encoded slash. -/
def RendersNoSlash (s : Settings) (vars : Variables) (e : Expression) : Prop :=
  (vars.get e.name).isNull = false →
    ∀ w, Expression.render s.encode s.charset (vars.get e.name) = .ok w → ¬ slashEscape <:+: w

variable {s vars}

theorem expandChunk_of_rendersNoSlash {c : Chunk}
    (h : ∀ e, .expression e = c → RendersNoSlash s vars e) :
    expandChunk { s with encodeSlash := true } vars c
      = expandChunk { s with encodeSlash := false } vars c := by
  cases c with
  | literal t ht => rfl
  | expression e =>
      simp only [expandChunk, expandExpression]
      split
      · rfl
      · next hv =>
          cases hw : e.expand s.encode s.charset (vars.get e.name) with
          | error err => rfl
          | ok w =>
              have hrender := (Expression.expand_eq_ok_iff.mp hw).1
              have hno := h e rfl (by simpa using hv) w hrender
              exact congrArg (fun t => Except.ok (some t)) (decodeSlashes_eq_self_iff.mpr hno).symm

theorem expandChunks_of_rendersNoSlash {cs : List Chunk}
    (h : ∀ e, .expression e ∈ cs → RendersNoSlash s vars e) :
    expandChunks { s with encodeSlash := true } vars cs
      = expandChunks { s with encodeSlash := false } vars cs := by
  induction cs with
  | nil => rfl
  | cons c cs ih =>
      have hhead := expandChunk_of_rendersNoSlash fun e he =>
        h e (he ▸ List.mem_cons_self ..)
      have htail := ih fun e he => h e (List.mem_cons_of_mem _ he)
      simp only [expandChunks, hhead, htail]

/-! ### Texts with variables -/

/-- Reads a text as a template and fills in the variables. -/
def expandText (source : Text) (s : Settings) (vars : Variables) : Except Error (Option Text) := do
  let t ← parse source s
  t.expand vars

/-- **The slash setting changes slashes only.** Under both settings expanding a text fails with the
same error, has no result, or gives texts that are the same once all their slashes are encoded; and
it gives the same text if no bound value is rendered with an encoded slash. -/
theorem expandText_slashes (source : Text) (s : Settings) (vars : Variables) :
    SameOutcome (Option.Rel SameUpToSlashes) (expandText source { s with encodeSlash := true } vars)
        (expandText source { s with encodeSlash := false } vars) ∧
      ((∀ e ∈ Token.expressionsIn source, RendersNoSlash s.normalize vars e) →
        expandText source { s with encodeSlash := true } vars
          = expandText source { s with encodeSlash := false } vars) := by
  simp only [expandText, parse_withEncodeSlash]
  cases hparse : parse source s with
  | error e => exact ⟨.error e, fun _ => rfl⟩
  | ok t =>
      refine ⟨sameOutcome_expand vars t, fun h => ?_⟩
      have hchunks : ∀ e, .expression e ∈ t.chunks → RendersNoSlash t.settings vars e := by
        intro e he
        rw [(parse_fields hparse).2]
        refine h e ?_
        rw [← expressions_parse hparse]
        exact List.mem_filterMap.mpr ⟨_, he, rfl⟩
      exact congrArg (· >>= fun parts =>
        Except.ok (if parts = [] && t.chunks ≠ [] then none else some parts.flatten))
          (expandChunks_of_rendersNoSlash hchunks)

/-! ### A file in a folder -/

/-- A template with slashes of both kinds, and one that is dropped. -/
def folder : Text :=
  "a%2Fb/{file}/{rest}"

/-- A name that is rendered with an escape which is not that of a slash. -/
def fileVariables : Variables :=
  ⟨[("file", .text "c d")]⟩

/-- The slashes of the folder stay what they are. -/
theorem expandText_slashes_folder :
    (∀ e ∈ Token.expressionsIn folder,
      RendersNoSlash (Settings.normalize {}) fileVariables e) ∧
    expandText folder { encodeSlash := true } fileVariables = .ok (some "a%2Fb/c%20d/") ∧
    expandText folder { encodeSlash := false } fileVariables = .ok (some "a%2Fb/c%20d/") := by
  have hexpressions : Token.expressionsIn folder
      = [Expression.named "file" (by decide), Expression.named "rest" (by decide)] := by
    decide +kernel
  have hrenders : ∀ e ∈ Token.expressionsIn folder,
      RendersNoSlash (Settings.normalize {}) fileVariables e := by
    rw [hexpressions]
    intro e he hv w hw
    rcases List.mem_pair.mp he with rfl | rfl
    · have hfile : (Expression.render true .utf8 (.text "c d")).toOption = some "c%20d".toList := by
        decide +kernel
      obtain rfl : "c%20d".toList = w :=
        Except.ok.inj ((toOption_eq_some_iff.mp hfile).symm.trans hw)
      exact decodeSlashes_eq_self_iff.mp (by decide)
    · exact absurd hv (by decide)
  have hrun : (expandText folder { encodeSlash := true } fileVariables).toOption
      = some (some "a%2Fb/c%20d/".toList) := by
    decide +kernel
  have htrue := toOption_eq_some_iff.mp hrun
  exact ⟨hrenders, htrue, ((expandText_slashes folder {} fileVariables).2 hrenders).symm.trans htrue⟩

end Template

end HttpTemplates
