import HttpTemplates.Proofs.Request.Building
import HttpTemplates.Proofs.Uri.Path

/-!
# The path of a request template

The path of a template is set, appended to and created again with another slash setting. If every
path that is given is well-formed, then after all of this **it is still a parsed path**
(`RequestTemplate.run_parsedPath`), which may be written out and parsed again.
-/

namespace HttpTemplates.RequestTemplate

open Segment (IsPath textOf)
open UriTemplate (IsParsedPath)

variable {t u : RequestTemplate} {c : Charset} {k : Codec}

theorem isLiteral_slash : Segment.IsLiteral Coding.utf8.codec ['/'] :=
  ⟨by decide, rfl, Codec.encodes_utf8 _⟩

/-- What a new path is read from is made of sound segments, if the text that is given is. -/
theorem exists_pathSource (hk : k.IsAsciiCompatible)
    (ht : IsParsedPath k t.uri.base.chunks) {ps : List Segment} (hpath : IsPath ps)
    (hps : ∀ s ∈ ps, s.IsSound Coding.utf8.codec) (append : Bool) :
    ∃ ss, textOf ss = t.pathSource (textOf ps) append ∧ IsPath ss ∧
      ∀ s ∈ ss, s.IsSound Coding.utf8.codec := by
  unfold pathSource
  cases append with
  | true =>
      -- The chunks of the old path are written in front, in their own segments.
      obtain ⟨ws, hwritten, hws, hsound⟩ := ht.exists_segments hk
      refine ⟨ws ++ ps, ?_, Segment.isPath_append.mpr ⟨hws, hpath⟩, fun s hs => ?_⟩
      · rw [Segment.textOf_append, hwritten]
        rfl
      · rcases List.mem_append.mp hs with hs | hs
        · exact (hsound s hs).utf8
        · exact hps s hs
  | false =>
      rw [if_neg (by simp)]
      split
      · exact ⟨ps, rfl, hpath, hps⟩
      · refine ⟨.literal ['/'] :: ps, rfl, ?_, List.forall_mem_cons.mpr ⟨isLiteral_slash, hps⟩⟩
        exact Segment.isPath_literal.mpr ⟨by decide, hpath⟩

/-- Whether the text of a call that sets a path is well-formed. -/
def Call.IsWellFormed : Call → Prop
  | .uri text _ => Token.WellFormed text
  | _ => True

instance : DecidablePred Call.IsWellFormed
  | .uri text _ => inferInstanceAs (Decidable (Token.WellFormed text))
  | .method _ | .target _ | .query _ _ | .header _ _ | .body _ | .textBody _ | .bodyTemplate _
  | .format _ | .decodeSlash _ => isTrue trivial

theorem apply_parsedPath {call : Call} (hc : t.charset.orUtf8.codec = .ok k)
    (hk : k.IsAsciiCompatible) (hcall : call.IsWellFormed)
    (ht : IsParsedPath k t.uri.base.chunks) (hu : call.apply t = .ok u) :
    IsParsedPath k u.uri.base.chunks := by
  cases call with
  | uri text append =>
      obtain ⟨path, line, uri, hsplit, hcreate, hline⟩ := withUri_eq_ok hu
      obtain ⟨ps, rfl, hpath, hps⟩ := UriTemplate.exists_of_splitQuery hcall hsplit
      obtain ⟨ss, hsource, hss, hsound⟩ := exists_pathSource hk ht hpath hps append
      rw [← hsource] at hcreate
      rw [withQueryLine_frame hline]
      exact UriTemplate.isParsedPath_create hc hk hsound hss hcreate
  | decodeSlash flag =>
      obtain ⟨uri, queries, hcreate, -, rfl⟩ := withDecodeSlash_eq_ok hu
      rw [UriTemplate.create_toText hc hk ht] at hcreate
      rw [← Except.ok.inj hcreate]
      exact ht
  | _ =>
      rw [(apply_frame hu).uri (by simp) (by simp)]
      exact ht

/-- **The path that a run of calls leaves may be parsed again.** -/
theorem run_parsedPath {calls : List Call} (hc : t.charset.orUtf8.codec = .ok k)
    (hk : k.IsAsciiCompatible) (hcalls : ∀ call ∈ calls, call.IsWellFormed)
    (ht : IsParsedPath k t.uri.base.chunks) (h : t.run calls = .ok u) :
    IsParsedPath k u.uri.base.chunks := by
  refine run_invariant (P := fun v => IsParsedPath k v.uri.base.chunks) h ht ?_
  intro call hmem v w hcharset hv hw
  rw [← hcharset] at hc
  exact apply_parsedPath hc hk (hcalls call hmem) hv hw

end HttpTemplates.RequestTemplate
