import HttpTemplates.Proofs.Template.Expansion
import HttpTemplates.Proofs.Template.Rejection
import Mathlib.Data.List.Infix

/-!
# Bodies in the envelope form

A body in the envelope form begins and ends with the escape of a brace. Neither escape holds a brace, so
both stand in literal text whatever the spans between them, the last of which may never be closed
(`Token.tokenize_enclosed`), and a template that encodes nothing copies literal text. The expansion
therefore begins and ends with the two escapes as well (`Template.exists_expand_enclosed`), and they
are the ones that searching it for the first and the last escape finds (`unwrap_enclosed`): **only the
outermost pair becomes braces, whatever the values hold** (`BodyTemplate.expand_envelope`).
-/

namespace HttpTemplates

/-! ### Finding at the ends of a text -/

namespace Text

/-- A text is found first at the beginning, if it stands there. -/
theorem indexOf?_append_self (sought t : Text) : indexOf? sought (sought ++ t) = some 0 := by
  cases h : sought ++ t with
  | nil => simp [indexOf?, (List.append_eq_nil_iff.mp h).1]
  | cons c rest =>
      have hstart : startsWith (c :: rest) sought = true := by
        rw [← h, startsWith, List.isPrefixOf_iff_prefix]
        exact List.prefix_append sought t
      rw [indexOf?, if_pos hstart]

/-- Nothing is found in a text that is too short for it. -/
theorem lastIndexOf?_of_lt {sought t : Text} (h : t.length < sought.length) :
    lastIndexOf? sought t = none := by
  induction t with
  | nil => simpa [lastIndexOf?] using List.ne_nil_of_length_pos h
  | cons c rest ih =>
      have hrest : rest.length < sought.length := by
        simp only [List.length_cons] at h
        omega
      have hstart : startsWith (c :: rest) sought = false := by
        rw [startsWith, Bool.eq_false_iff, ne_eq, List.isPrefixOf_iff_prefix]
        intro hprefix
        exact absurd hprefix.length_le (by omega)
      simp [lastIndexOf?, ih hrest, hstart]

/-- A text is found last at the end, if it stands there. -/
theorem lastIndexOf?_append_self (s sought : Text) :
    lastIndexOf? sought (s ++ sought) = some s.length := by
  induction s with
  | nil =>
      cases sought with
      | nil => rfl
      | cons c rest =>
          have hstart : startsWith (c :: rest) (c :: rest) = true := by
            simp [startsWith]
          have hbehind : lastIndexOf? (c :: rest) rest = none := lastIndexOf?_of_lt (by simp)
          simp [lastIndexOf?, hbehind, hstart]
  | cons c s ih => simp [lastIndexOf?, ih]

end Text

/-! ### Enclosed texts -/

/-- The tokens of a text that begins and ends without braces: it is a single token, or the first token
begins and the last token ends like it. -/
theorem Token.tokenize_enclosed {lead tail : Text} (hlead : lead ≠ []) (hopen : openBrace ∉ lead)
    (htail : tail ≠ []) (hplain : openBrace ∉ tail ∧ closeBrace ∉ tail) (s : Text) :
    tokenize (lead ++ s ++ tail) = [lead ++ s ++ tail] ∨
      ∃ x tokens y, tokenize (lead ++ s ++ tail) = (lead ++ x) :: (tokens ++ [y ++ tail]) := by
  obtain ⟨front, last, -, hlast⟩ := exists_scan_append_plain .outside [] (lead ++ s)
  have htokens : tokenize (lead ++ s ++ tail) = front ++ [last.reverse ++ tail] :=
    hlast tail htail hplain
  cases front with
  | nil =>
      have hall := flatten_tokenize (lead ++ s ++ tail)
      rw [htokens] at hall
      left
      rw [htokens, ← hall]
      simp
  | cons first tokens =>
      have hread : lead.reverse ++ [] ≠ [] := by simpa using hlead
      obtain ⟨x, rest, hfirst⟩ := scan_read hread (s ++ tail)
      rw [← scan_literal hopen, ← List.append_assoc, ← tokenize, htokens, List.cons_append] at hfirst
      obtain ⟨rfl, -⟩ := List.cons.inj hfirst
      right
      exact ⟨x, tokens, last.reverse, by simpa using htokens⟩

namespace Template

variable {s : Settings} {vars : Variables}

/-- Where every chunk contributes a text, a literal token contributes itself. -/
theorem copies_of_chunks {tokens ws : List Text} {cs : List Chunk}
    (hchunks : List.Forall₂ IsChunkOf tokens cs)
    (hws : List.Forall₂ (fun c w => expandChunk s vars c = .ok (some w)) cs ws) :
    List.Forall₂ (fun token w => Expression.parse token = .ok none → w = token) tokens ws := by
  induction hchunks generalizing ws with
  | nil =>
      cases hws with
      | nil => exact .nil
  | cons hchunk _ ih =>
      cases hws with
      | cons hw hws =>
          refine .cons (fun hnone => ?_) (ih hws)
          cases hchunk with
          | expression he => exact absurd (hnone.symm.trans he) (by simp)
          | literal _ _ => exact (Option.some.inj (Except.ok.inj hw)).symm

/-- What ends with a literal token ends with it after expansion. -/
theorem exists_flatten_of_copies {tokens ws : List Text} {token : Text}
    (hcopies : List.Forall₂ (fun token w => Expression.parse token = .ok none → w = token)
      (tokens ++ [token]) ws) (hnone : Expression.parse token = .ok none) :
    ∃ before, ws.flatten = before ++ token := by
  induction tokens generalizing ws with
  | nil =>
      cases hcopies with
      | cons hw hws =>
          cases hws with
          | nil => exact ⟨[], by simp [hw hnone]⟩
  | cons first tokens ih =>
      cases hcopies with
      | @cons _ w _ ws hw hws =>
          obtain ⟨before, hbefore⟩ := ih hws
          exact ⟨w ++ before, by rw [List.flatten_cons, hbefore, List.append_assoc]⟩

/-- **What stands without braces at the two ends of a template stands at the two ends of its
expansion**, if nothing is encoded and expressions without a value are kept. -/
theorem exists_expand_enclosed {t : Template} {lead body tail : Text}
    (hchunks : List.Forall₂ IsChunkOf (Token.tokenize (lead ++ body ++ tail)) t.chunks)
    (hkeep : t.settings.keepUnresolved = true) (hlead : lead ≠ []) (hopen : Token.openBrace ∉ lead)
    (htail : tail ≠ []) (hplain : Token.openBrace ∉ tail ∧ Token.closeBrace ∉ tail)
    {out : Option Text} (h : t.expand vars = .ok out) :
    ∃ inner, out = some (lead ++ inner ++ tail) := by
  have hfirst : ∀ x, Expression.parse (lead ++ x) = .ok none := by
    intro x
    refine Expression.parse_of_head fun hhead => hopen (List.mem_of_head? (l := lead) ?_)
    rwa [List.head?_append_of_ne_nil _ hlead] at hhead
  have hlast : ∀ y, Expression.parse (y ++ tail) = .ok none := by
    intro y
    refine Expression.parse_of_getLast fun hend => ?_
    rw [List.getLast?_append_of_ne_nil _ htail] at hend
    exact hplain.2 (List.mem_of_getLast? hend)
  obtain ⟨ws, hws, rfl⟩ := expand_eq_ok_of_keepUnresolved hkeep h
  have hcopies := copies_of_chunks hchunks hws
  rcases Token.tokenize_enclosed hlead hopen htail hplain body with htokens | ⟨x, mid, y, htokens⟩
  · rw [htokens] at hcopies
    cases hcopies with
    | cons hw hrest =>
        cases hrest with
        | nil =>
            have hwhole := hw (hlast (lead ++ body))
            exact ⟨body, by simp [hwhole]⟩
  · rw [htokens] at hcopies
    cases hcopies with
    | cons hw hrest =>
        obtain ⟨before, hbefore⟩ := exists_flatten_of_copies hrest (hlast y)
        exact ⟨x ++ before ++ y, by simp [hw (hfirst x), hbefore]⟩

end Template

/-! ### The envelope -/

namespace BodyTemplate

/-- No end of the opening escape begins the closing one. -/
theorem eq_nil_of_overlap {x : Text} (hopen : x <:+ openEscape) (hclose : x <+: closeEscape) :
    x = [] := by
  have hall : ∀ x ∈ openEscape.tails, x <+: closeEscape → x = [] := by decide
  exact hall x ((List.mem_tails _ _).mpr hopen) hclose

/-- So there is an opening escape in front of the closing one. -/
theorem exists_enclosed {source : Text} (hopen : Text.startsWith source openEscape = true)
    (hclose : Text.endsWith source closeEscape = true) :
    ∃ body, source = openEscape ++ body ++ closeEscape := by
  rw [Text.startsWith, List.isPrefixOf_iff_prefix] at hopen
  rw [Text.endsWith, List.isSuffixOf_iff_suffix] at hclose
  obtain ⟨rest, rfl⟩ := hopen
  obtain ⟨front, hfront⟩ := hclose
  rcases List.append_eq_append_iff.mp hfront with ⟨x, hopen, hclose⟩ | ⟨body, rfl, hbody⟩
  · obtain rfl := eq_nil_of_overlap ⟨front, hopen.symm⟩ ⟨rest, hclose.symm⟩
    exact ⟨[], by simp [hclose]⟩
  · exact ⟨body, by rw [hbody, List.append_assoc]⟩

/-- The first opening escape and the last closing one become braces. -/
theorem unwrap_enclosed (inner : Text) : unwrap (openEscape ++ inner ++ closeEscape)
    = Token.openBrace :: inner ++ [Token.closeBrace] := by
  have hstart : Text.indexOf? openEscape (openEscape ++ inner ++ closeEscape) = some 0 := by
    rw [List.append_assoc]
    exact Text.indexOf?_append_self _ _
  have hstop : Text.lastIndexOf? closeEscape (openEscape ++ inner ++ closeEscape)
      = some (openEscape ++ inner).length :=
    Text.lastIndexOf?_append_self _ _
  simp only [unwrap, hstart, hstop, Option.getD_some, List.take_left, Nat.zero_add, List.drop_left]

/-- **Only the outermost pair of escapes becomes braces.** Whatever the variables are bound to, the
expansion of the template begins with the opening escape and ends with the closing one, which stands
behind it, and the body has braces in the place of these two. It fails if the template fails. -/
theorem expand_envelope {source : Text} {c : Charset} {t : Template}
    (ht : Template.parse source ⟨true, false, false, c⟩ = .ok t)
    (hopen : Text.startsWith source openEscape = true)
    (hclose : Text.endsWith source closeEscape = true) : ∃ b, create source c = .ok b ∧
      ∀ vars, (∀ out, t.expand vars = .ok out → ∃ inner,
          out = some (openEscape ++ inner ++ closeEscape) ∧
            b.expand vars = .ok (some (Token.openBrace :: inner ++ [Token.closeBrace]))) ∧
        ∀ e, t.expand vars = .error e → b.expand vars = .error e := by
  obtain ⟨hsource, hsettings⟩ := Template.parse_fields ht
  have henvelope : isEnvelope ⟨t⟩ = true := by
    simp only [isEnvelope, hsource, hopen, hclose, Bool.and_self]
  have hkeep : t.settings.keepUnresolved = true := by
    rw [hsettings]
    rfl
  refine ⟨⟨t⟩, create_eq_ok_iff.mpr ht, fun vars => ⟨fun out hout => ?_, fun e he => ?_⟩⟩
  · obtain ⟨body, rfl⟩ := exists_enclosed hopen hclose
    obtain ⟨inner, rfl⟩ := Template.exists_expand_enclosed (Template.isChunkOf_of_parse ht) hkeep
      (by decide) (by decide) (by decide) (by decide) hout
    refine ⟨inner, rfl, ?_⟩
    rw [expand, hout, bind_ok, if_pos henvelope, Option.map_some, unwrap_enclosed]
  · rw [expand, he]
    rfl

/-- An envelope with an inner one, an expression and a span that is never closed. -/
def nestedEnvelope : Text :=
  "%7Ba:%7Bb:\x7bv\x7d%7D,\x7bc%7D"

/-- A text that holds both escapes in the wrong order. -/
def escapeVariables : Variables :=
  ⟨[("v", .text "%7D%7B")]⟩

/-- The inner escapes stay as they are, and so do those of the value. -/
theorem expand_envelope_nested : ∃ t b,
    Template.parse nestedEnvelope ⟨true, false, false, .utf8⟩ = .ok t ∧
    Text.startsWith nestedEnvelope openEscape = true ∧
    Text.endsWith nestedEnvelope closeEscape = true ∧
    create nestedEnvelope .utf8 = .ok b ∧
    t.expand escapeVariables = .ok (some "%7Ba:%7Bb:%7D%7B%7D,\x7bc%7D") ∧
    b.expand escapeVariables = .ok (some "\x7ba:%7Bb:%7D%7B%7D,\x7bc\x7d") := by
  have hrun : (Template.parse nestedEnvelope ⟨true, false, false, .utf8⟩).toOption.any (fun t =>
      (t.expand escapeVariables).toOption
        = some (some "%7Ba:%7Bb:%7D%7B%7D,\x7bc%7D".toList)) = true := by
    decide +kernel
  obtain ⟨t, ht, hcheck⟩ := exists_ok_of_any hrun
  have hout := toOption_eq_some_iff.mp (of_decide_eq_true hcheck)
  have hopen : Text.startsWith nestedEnvelope openEscape = true := by decide
  have hclose : Text.endsWith nestedEnvelope closeEscape = true := by decide
  obtain ⟨b, hb, hexpand⟩ := expand_envelope ht hopen hclose
  obtain ⟨inner, hinner, hbody⟩ := (hexpand escapeVariables).1 _ hout
  have hsplit : "a:%7Bb:%7D%7B%7D,\x7bc".toList = inner := by
    have hall : openEscape ++ "a:%7Bb:%7D%7B%7D,\x7bc".toList ++ closeEscape
        = openEscape ++ inner ++ closeEscape := Option.some.inj hinner
    exact List.append_cancel_left (List.append_cancel_right hall)
  refine ⟨t, b, ht, hopen, hclose, hb, hout, ?_⟩
  rw [hbody, ← hsplit]
  rfl

end BodyTemplate

end HttpTemplates
