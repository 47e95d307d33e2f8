import HttpTemplates.Proofs.Percent.Disguise
import HttpTemplates.Proofs.Template.Expansion
import HttpTemplates.Proofs.Template.ExpressionText
import HttpTemplates.Template.Uri

/-!
# Paths with a root

A text is rooted if it is empty or begins with a slash. A URI template that is parsed from such a
text is written as one (`UriTemplate.isRooted_create`), and one that is written so expands to one,
whatever the values (`UriTemplate.isRooted_expand`): the slash is literal text, and the encoding of
a literal keeps it.
-/

namespace HttpTemplates

/-! ### The first character of a literal -/

theorem Percent.encodeUnlessEncoded_slash {safe : Char → Bool} {c : Charset} {k : Codec}
    (hc : c.codec = .ok k) (hk : k.IsAsciiCompatible) (hsafe : safe '/' = true)
    {t w : Text} (h : encodeUnlessEncoded safe c ('/' :: t) = .ok w) : w.head? = some '/' := by
  obtain ⟨test, htest, h⟩ := bind_eq_ok_iff.mp h
  cases test with
  | true =>
      have hdisguised : IsDisguised c ('/' :: t) :=
        ⟨htest, '/', List.mem_cons_self .., by decide⟩
      exact absurd hdisguised (discerns_of_isAsciiCompatible ⟨k, hc, hk⟩ _)
  | false =>
      rw [if_neg (by simp), encodeReserved_eq_ok_iff hc hk] at h
      rw [← h.2, escaped_cons_of_safe safe k hk (by decide) hsafe (by decide), List.head?_cons]

/-- If the encoding of literals keeps the first character of a text, its first chunk begins with
this character. -/
theorem Template.parseFragment_head {enc : Text → Except Error Text} {c : Char} {t : Text}
    {chunks : List Chunk} (hc : c ≠ Token.openBrace)
    (henc : ∀ s w, enc (c :: s) = .ok w → w.head? = some c)
    (h : parseFragment enc (c :: t) = .ok chunks) : (textOfChunks chunks).head? = some c := by
  obtain ⟨s, tokens, htokens⟩ := Token.tokenize_cons hc t
  rw [parseFragment, htokens] at h
  obtain ⟨head, hhead, h⟩ := bind_eq_ok_iff.mp h
  obtain ⟨tail, -, h⟩ := bind_eq_ok_iff.mp h
  rw [chunksOfToken, Expression.parse_of_head (by simpa using hc), bind_ok] at hhead
  obtain ⟨w, hw, hhead⟩ := bind_eq_ok_iff.mp hhead
  have hfirst := henc s w hw
  have hne : w ≠ [] := fun hnil => by simp [hnil] at hfirst
  rw [← Except.ok.inj h, ← Except.ok.inj hhead, Chunk.literal?, dif_neg hne]
  simp [textOfChunks, Chunk.text, List.head?_append, hfirst]

namespace UriTemplate

/-- A text that is empty or begins with a slash. -/
def IsRooted (t : Text) : Prop :=
  t = [] ∨ t.head? = some '/'

/-! ### Parsing -/

/-- A rooted text gives a rooted template. -/
theorem isRooted_create {c : Charset} (hc : c.orUtf8.IsAsciiCompatible) {source : Text}
    {encodeSlash : Bool} {u : UriTemplate} (hsource : IsRooted source)
    (h : create source c encodeSlash = .ok u) : IsRooted u.toText := by
  obtain ⟨k, hcodec, hk⟩ := hc
  obtain rfl | hhead := hsource
  · rw [create_nil] at h
    rw [← Except.ok.inj h]
    exact Or.inl rfl
  obtain ⟨t, rfl⟩ := List.head?_eq_some_iff.mp hhead
  have hpath := fun t w => Percent.encodeUnlessEncoded_slash (t := t) (w := w) hcodec hk
    (show Percent.isPathSafe '/' = true by decide)
  have hquery := fun t w => Percent.encodeUnlessEncoded_slash (t := t) (w := w) hcodec hk
    (show Percent.isQuerySafe '/' = true by decide)
  have hbrace : '/' ≠ Token.openBrace := by decide
  obtain ⟨chunks, hchunks, h⟩ := bind_eq_ok_iff.mp h
  obtain ⟨delimiter, -, hchunks⟩ := bind_eq_ok_iff.mp hchunks
  rw [← Except.ok.inj h]
  refine Or.inr ?_
  show (Template.textOfChunks chunks).head? = some '/'
  cases delimiter with
  | none => exact Template.parseFragment_head hbrace hpath hchunks
  | some i =>
      obtain ⟨path, hleft, hchunks⟩ := bind_eq_ok_iff.mp hchunks
      obtain ⟨query, hright, hchunks⟩ := bind_eq_ok_iff.mp hchunks
      rw [← Except.ok.inj hchunks, Template.textOfChunks, List.flatMap_append]
      cases i with
      | zero =>
          -- The whole text is a query string.
          obtain rfl : [] = path := Except.ok.inj hleft
          exact Template.parseFragment_head hbrace hquery hright
      | succ i =>
          have hfirst := Template.parseFragment_head hbrace hpath hleft
          rw [Template.textOfChunks] at hfirst
          rw [List.head?_append, hfirst, Option.some_or]

/-! ### Expanding -/

/-- A rooted template expands to a rooted text. -/
theorem isRooted_expand {u : UriTemplate} {vars : Variables} {p : Option Text}
    (hroot : IsRooted u.toText) (hp : u.expand vars = .ok p) : IsRooted (p.getD []) := by
  obtain ⟨ps, hps, rfl⟩ := Template.expand_eq_ok_iff.mp hp
  unfold toText Template.toText Template.textOfChunks at hroot
  cases hchunks : u.base.chunks with
  | nil =>
      rw [hchunks, Template.contributions_nil] at hps
      rw [hps]
      exact Or.inl rfl
  | cons chunk chunks =>
      rw [hchunks, List.flatMap_cons] at hroot
      rw [hchunks, Template.contributions_cons] at hps
      obtain ⟨first, rest, hfirst, -, rfl⟩ := hps
      cases chunk with
      | literal t ht =>
          obtain rfl : some t = first := Except.ok.inj hfirst
          have hslash : t.head? = some '/' := by
            obtain hnil | hhead := hroot
            · exact absurd (List.append_eq_nil_iff.mp hnil).1 ht
            · cases t with
              | nil => exact absurd rfl ht
              | cons c t => exact hhead
          refine Or.inr ?_
          simp [Template.assembled, List.head?_append, hslash]
      | expression e =>
          -- The text of an expression begins with a brace.
          obtain hnil | hhead := hroot
          · exact absurd (List.append_eq_nil_iff.mp hnil).1 (by simp [Chunk.text, Expression.text])
          · exact absurd hhead (by simp [Chunk.text, Expression.text, Token.openBrace])

end UriTemplate

end HttpTemplates
