import HttpTemplates.Client.Authority
import HttpTemplates.Proofs.Request.Resolution
import HttpTemplates.Proofs.Text.Splitting
import HttpTemplates.Proofs.Uri.Root

/-!
# The host a request goes to

The URL of a resolved template is its target with the expanded path and the query string behind it,
and nothing is put in between. So the authority of the URL is the one of the target if a path stands
in the target or the expanded path is empty or begins with a delimiter, and in no other case:
`RequestTemplate.written_resolve_iff`.

An expanded path has a delimiter in front, whatever the values, if the template of the path is
rooted. `Call.KeepsRoot` says which calls keep it so.
-/

namespace HttpTemplates

/-! ### Authorities as they are written -/

namespace Authority

/-- A delimiter that ends the authority of a URL. -/
def isEnd (c : Char) : Bool :=
  c = '/' || c = '?' || c = '#'

/-- The text behind the first `://` of a URL, up to the next delimiter. -/
def written (url : Text) : Text :=
  match Text.indexOf? "://" url with
  | some i => (url.drop (i + 3)).takeWhile fun c => !isEnd c
  | none => []

/-- A text that may follow an authority: it is empty or begins with a delimiter. -/
def Ends (t : Text) : Prop :=
  ∀ c, t.head? = some c → isEnd c = true

/-- A URL with a scheme and an authority. -/
structure IsBaseUrl (url scheme authority rest : Text) : Prop where
  eq : url = scheme ++ "://" ++ authority ++ rest
  scheme : ∀ c ∈ scheme, isSchemeChar c = true
  authority_ne_nil : authority ≠ []
  authority : ∀ c ∈ authority, isEnd c = false
  rest : Ends rest

theorem indexOf?_append {scheme : Text} (h : ':' ∉ scheme) (t : Text) :
    Text.indexOf? "://" (scheme ++ "://" ++ t) = some scheme.length := by
  induction scheme with
  | nil => rfl
  | cons c scheme ih =>
      simp only [List.mem_cons, not_or] at h
      have hstart : Text.startsWith (c :: (scheme ++ "://" ++ t)) "://" = false := by
        simp [Text.startsWith, List.isPrefixOf, h.1]
      rw [List.cons_append, List.cons_append, Text.indexOf?, hstart, ih h.2]
      rfl

theorem ends_append {s : Text} (hs : s ≠ []) (t : Text) : Ends (s ++ t) ↔ Ends s := by
  cases s with
  | nil => exact absurd rfl hs
  | cons c s => exact Iff.rfl

theorem ends_nil : Ends [] := nofun

theorem takeWhile_eq_iff {authority : Text} (h : ∀ c ∈ authority, isEnd c = false) (t : Text) :
    (authority ++ t).takeWhile (fun c => !isEnd c) = authority ↔ Ends t := by
  rw [List.takeWhile_append_of_pos (by simpa using h), List.append_right_eq_self]
  cases t with
  | nil => simp [ends_nil]
  | cons c t => simp [Ends]

theorem IsBaseUrl.mark_notMem {url scheme authority rest : Text}
    (h : IsBaseUrl url scheme authority rest) : '?' ∉ scheme ++ "://" ++ authority := by
  intro hmem
  rcases List.mem_append.mp hmem with hmem | hmem
  · rcases List.mem_append.mp hmem with hmem | hmem
    · exact absurd (h.scheme '?' hmem) (by decide)
    · exact absurd hmem (by decide)
  · exact absurd (h.authority '?' hmem) (by decide)

/-- The authority of a URL is found if what stands behind it does not continue it. -/
theorem written_eq_iff {url scheme authority rest : Text}
    (h : IsBaseUrl url scheme authority rest) (t : Text) :
    written (scheme ++ "://" ++ authority ++ t) = authority ↔ Ends t := by
  have hcolon : ':' ∉ scheme := fun hmem => absurd (h.scheme ':' hmem) (by decide)
  have hdrop : (scheme ++ "://" ++ (authority ++ t)).drop (scheme.length + 3) = authority ++ t := by
    exact List.drop_left' (by rw [List.length_append]; rfl)
  rw [List.append_assoc _ authority, written, indexOf?_append hcolon]
  simp only [hdrop]
  exact takeWhile_eq_iff h.authority t

end Authority

namespace RequestTemplate

open Authority (written IsBaseUrl Ends)
open UriTemplate (IsRooted)

/-! ### The target -/

variable {t u r : RequestTemplate} {vars : Variables}

/-- What a target keeps behind its authority: the path, without the slashes at its end. -/
def keptPath (rest : Text) : Text :=
  Text.dropEnd (· = '/') (Text.cut '?' rest).1

/-- A target keeps its scheme and its authority. -/
theorem withTarget_base {url scheme authority rest : Text}
    (h : IsBaseUrl url scheme authority rest) (ht : t.withTarget url = .ok u) :
    u.target = scheme ++ "://" ++ authority ++ keptPath rest := by
  obtain ⟨c, hc⟩ : ∃ c, authority.getLast? = some c :=
    ⟨_, List.getLast?_eq_some_getLast h.authority_ne_nil⟩
  have hlast : (scheme ++ "://" ++ authority).getLast? = some c := by
    rw [List.getLast?_append, hc, Option.some_or]
  have hslash : c ≠ '/' := by
    rintro rfl
    exact absurd (h.authority '/' (List.mem_of_getLast? hc)) (by decide)
  rw [withQueryLine_frame (withTarget_eq_ok ht), h.eq, Text.cut_append_of_not_mem h.mark_notMem]
  exact Text.dropEnd_append hlast (by simpa using hslash) _

theorem ends_keptPath {rest : Text} (h : Ends rest) : Ends (keptPath rest) := by
  intro c hc
  obtain ⟨s, hs, -⟩ := Text.exists_dropEnd (· = '/') (Text.cut '?' rest).1
  have hpath : (Text.cut '?' rest).1.head? = some c := by
    rw [keptPath] at hc
    rw [hs, List.head?_append, hc, Option.some_or]
  exact h c (Text.head_cut hpath)

/-- A path of slashes is not kept. -/
theorem keptPath_eq_nil_iff {rest : Text} :
    keptPath rest = [] ↔ ∀ c ∈ (Text.cut '?' rest).1, c = '/' := by
  rw [keptPath, Text.dropEnd_eq_nil_iff]
  simp

theorem run_target {calls : List Call} (hcalls : ∀ url, .target url ∉ calls)
    (h : t.run calls = .ok u) : u.target = t.target := by
  refine run_invariant (P := fun v => v.target = t.target) h rfl ?_
  intro call hmem v w _ hv hw
  rw [(apply_frame hw).target, hv]
  rintro url rfl
  exact hcalls url hmem

/-! ### The URL -/

/-- A query string follows behind a question mark, unless there is one already. -/
theorem joinUrl_eq_append (base line : Text) : ∃ tail, joinUrl base line = base ++ tail ∧
    (tail ≠ [] → '?' ∉ base → tail.head? = some '?') := by
  unfold joinUrl
  split
  · exact ⟨[], (List.append_nil base).symm, fun h => absurd rfl h⟩
  · refine ⟨_, rfl, fun _ hbase => ?_⟩
    rw [if_neg (by simpa using hbase)]
    rfl

/-- The authority of a URL is that of its target if something that ends it follows. -/
theorem written_joinUrl_iff {url scheme authority rest : Text}
    (h : IsBaseUrl url scheme authority rest) (path line : Text) :
    written (joinUrl (scheme ++ "://" ++ authority ++ keptPath rest ++ path) line) = authority ↔
      (∃ c ∈ (Text.cut '?' rest).1, c ≠ '/') ∨ Ends path := by
  obtain ⟨tail, htail, hmark⟩ :=
    joinUrl_eq_append (scheme ++ "://" ++ authority ++ keptPath rest ++ path) line
  rw [htail, List.append_assoc, List.append_assoc, Authority.written_eq_iff h]
  by_cases hkept : keptPath rest = []
  · have hnone : ¬ ∃ c ∈ (Text.cut '?' rest).1, c ≠ '/' := by
      simpa using keptPath_eq_nil_iff.mp hkept
    rw [hkept, List.nil_append, or_iff_right hnone]
    by_cases hpath : path = []
    · -- The authority is followed by the query string, if by anything.
      rw [hkept, hpath, List.append_nil, List.append_nil] at hmark
      rw [hpath, List.nil_append, iff_true_right Authority.ends_nil]
      intro c hc
      have hne : tail ≠ [] := fun hnil => by simp [hnil] at hc
      obtain rfl : '?' = c := Option.some.inj ((hmark hne h.mark_notMem).symm.trans hc)
      decide
    · exact Authority.ends_append hpath tail
  · have hsome : ∃ c ∈ (Text.cut '?' rest).1, c ≠ '/' := by
      by_contra hnone
      exact hkept (keptPath_eq_nil_iff.mpr (by simpa using hnone))
    rw [Authority.ends_append hkept, iff_true_left (ends_keptPath h.rest)]
    exact Or.inl hsome

/-! ### Rooted paths -/

theorem queryDelimiter_mark (t : Text) : UriTemplate.queryDelimiter? ('?' :: t) = .ok (some 0) := by
  obtain ⟨s, tokens, htokens⟩ := Token.tokenize_cons (c := '?') (by decide) t
  rw [UriTemplate.queryDelimiter?, htokens, UriTemplate.findDelimiter,
    Expression.parse_of_head (by simp [Token.openBrace]), bind_ok]
  simp

/-- A path is a beginning of the text it is given in, and the question mark is not part of it. -/
theorem splitQuery_eq_ok {text path line : Text} (h : splitQuery text = .ok (path, line)) :
    path <+: text ∧ path.head? ≠ some '?' := by
  obtain ⟨delimiter, hdelimiter, h⟩ := bind_eq_ok_iff.mp h
  have hmark : text.head? = some '?' → delimiter = some 0 := by
    intro hhead
    obtain ⟨t, rfl⟩ := List.head?_eq_some_iff.mp hhead
    rw [queryDelimiter_mark] at hdelimiter
    exact (Except.ok.inj hdelimiter).symm
  cases delimiter with
  | none =>
      obtain ⟨rfl, -⟩ : text = path ∧ [] = line := by simpa using h
      exact ⟨List.prefix_rfl, fun hhead => by simpa using hmark hhead⟩
  | some i =>
      obtain ⟨rfl, -⟩ : text.take i = path ∧ text.drop (i + 1) = line := by simpa using h
      refine ⟨List.take_prefix i text, fun hhead => ?_⟩
      rw [List.head?_take] at hhead
      split at hhead
      · exact absurd hhead (by simp)
      · next hi => exact hi (Option.some.inj (hmark hhead))

/-- Whether a call keeps a rooted path rooted: a new path begins with neither an expression nor a
parameter, and nothing but a rooted text or a query string is put behind an empty path. -/
def Call.KeepsRoot (t : RequestTemplate) : Call → Prop
  | .uri text false => text.head? ≠ some Token.openBrace ∧ text.head? ≠ some ';'
  | .uri text true => t.uri.toText ≠ [] ∨ IsRooted text ∨ text.head? = some '?'
  | _ => True

/-- The text that a path is read from is rooted. -/
theorem isRooted_pathSource {text path line : Text} {append : Bool}
    (hcall : (Call.uri text append).KeepsRoot t) (hroot : IsRooted t.uri.toText)
    (hsplit : splitQuery text = .ok (path, line)) : IsRooted (t.pathSource path append) := by
  obtain ⟨hbegin, hmark⟩ := splitQuery_eq_ok hsplit
  have hhead : ∀ {c}, path.head? = some c → text.head? = some c := by
    intro c hc
    obtain ⟨tail, rfl⟩ := hbegin
    rw [List.head?_append, hc, Option.some_or]
  unfold pathSource
  cases append with
  | true =>
      rw [if_pos rfl]
      obtain hnil | hslash := hroot
      · rw [hnil, List.nil_append]
        cases path with
        | nil => exact Or.inl rfl
        | cons c path =>
            have hc := hhead rfl
            obtain hne | (hempty | hslash) | hquery := hcall
            · exact absurd hnil hne
            · exact absurd (hempty ▸ hc) (by simp)
            · exact Or.inr (by rw [List.head?_cons, ← hc, hslash])
            · exact absurd (by rw [List.head?_cons, ← hc, hquery]) hmark
      · exact Or.inr (by rw [List.head?_append, hslash, Option.some_or])
  | false =>
      rw [if_neg (by simp)]
      obtain ⟨hbrace, hparameter⟩ := hcall
      cases path with
      | nil => exact Or.inl rfl
      | cons c path =>
          rw [hhead rfl] at hbrace hparameter
          split
          · next hbegins =>
              -- Of the characters that begin a path only the slash is left.
              refine Or.inr ?_
              simp only [beginsPath, Bool.or_eq_true, decide_eq_true_eq] at hbegins
              obtain ((hslash | hopen) | hquery) | hsemicolon := hbegins
              · rw [hslash, List.head?_cons]
              · exact absurd (congrArg some hopen) hbrace
              · exact absurd (congrArg some hquery) hmark
              · exact absurd (congrArg some hsemicolon) hparameter
          · exact Or.inr rfl

theorem apply_rooted {call : Call} (hc : t.charset.orUtf8.IsAsciiCompatible)
    (hcall : call.KeepsRoot t) (hroot : IsRooted t.uri.toText) (hu : call.apply t = .ok u) :
    IsRooted u.uri.toText := by
  cases call with
  | uri text append =>
      obtain ⟨path, line, uri, hsplit, hcreate, hline⟩ := withUri_eq_ok hu
      rw [withQueryLine_frame hline]
      exact UriTemplate.isRooted_create hc (isRooted_pathSource hcall hroot hsplit) hcreate
  | decodeSlash flag =>
      obtain ⟨uri, queries, hcreate, -, rfl⟩ := withDecodeSlash_eq_ok hu
      exact UriTemplate.isRooted_create hc hroot hcreate
  | _ =>
      rw [(apply_frame hu).uri (by simp) (by simp)]
      exact hroot

/-- Whether every call of a run keeps a rooted path rooted where it is made. -/
def KeepsRoot (t : RequestTemplate) (calls : List Call) : Prop :=
  ∀ done call rest v, calls = done ++ call :: rest → t.run done = .ok v → call.KeepsRoot v

theorem run_rooted {calls : List Call} (hc : t.charset.orUtf8.IsAsciiCompatible)
    (hcalls : t.KeepsRoot calls) (hroot : IsRooted t.uri.toText) (h : t.run calls = .ok u) :
    IsRooted u.uri.toText := by
  refine run_induction (P := fun _ v => IsRooted v.uri.toText) h hroot ?_
  intro done call rest v w hsplit hdone hv hw
  have hcharset : v.charset.orUtf8.IsAsciiCompatible := by
    rw [run_charset hdone]
    exact hc
  exact apply_rooted hcharset (hcalls done call rest v hsplit hdone) hv hw

/-! ### The URL of a resolved template -/

/-- **The host a request goes to.** Let a run of calls set a target with a scheme and an authority
and no other target behind it. Then the URL that the variables are resolved to has the authority of
the target if and only if the target has a path of more than slashes, or the expanded path is empty
or begins with a delimiter. No value breaks this while the path is written without an expression in
front, and so none does after calls that keep it so. -/
theorem written_resolve_iff {c : Charset} {f : Option CollectionFormat} {d : Option Bool}
    {before after : List Call} {target scheme authority rest : Text}
    (hbase : IsBaseUrl target scheme authority rest) (hafter : ∀ url, .target url ∉ after)
    (ht : (initial c f d).run (before ++ .target target :: after) = .ok t)
    (hr : t.resolve vars = .ok r) :
    ∃ url headers path, r.resolution = some ⟨url, headers⟩ ∧ t.uri.expand vars = .ok path ∧
      (written url = written target ↔
        (∃ x ∈ (Text.cut '?' rest).1, x ≠ '/') ∨ Ends (path.getD [])) ∧
      (IsRooted t.uri.toText → written url = written target) ∧
      (c.orUtf8.IsAsciiCompatible →
        (initial c f d).KeepsRoot (before ++ .target target :: after) →
          written url = written target) := by
  obtain ⟨url, headers, body, hurl, -, -, rfl⟩ := resolve_eq_ok_iff.mp hr
  obtain ⟨path, hpath, hurl⟩ := bind_eq_ok_iff.mp hurl
  obtain ⟨parameters, -, hurl⟩ := bind_eq_ok_iff.mp hurl
  -- The target is set in the middle of the run and stays what it is.
  have hkept : t.target = scheme ++ "://" ++ authority ++ keptPath rest := by
    obtain ⟨u, -, hrest⟩ := bind_eq_ok_iff.mp ((run_append _ _ _).symm.trans ht)
    obtain ⟨v, hv, hrest⟩ := bind_eq_ok_iff.mp hrest
    rw [run_target hafter hrest, withTarget_base hbase hv]
  have htarget : written target = authority := by
    rw [hbase.eq, Authority.written_eq_iff hbase]
    exact hbase.rest
  have hiff : written url = written target ↔
      (∃ x ∈ (Text.cut '?' rest).1, x ≠ '/') ∨ Ends (path.getD []) := by
    rw [htarget, ← Except.ok.inj hurl, hkept]
    exact written_joinUrl_iff hbase _ _
  have hrooted : IsRooted t.uri.toText → written url = written target := by
    intro hroot
    refine hiff.mpr (Or.inr fun x hx => ?_)
    obtain hnil | hslash := UriTemplate.isRooted_expand hroot hpath
    · exact absurd (hnil ▸ hx) (by simp)
    · obtain rfl : '/' = x := Option.some.inj (hslash.symm.trans hx)
      decide
  refine ⟨url, headers, path, rfl, hpath, hiff, hrooted, fun hc hcalls => hrooted ?_⟩
  exact run_rooted hc hcalls (Or.inl rfl) ht

/-! ### A value behind the host -/

/-- A value that continues the host. -/
def suffixVariables : Variables :=
  ⟨[("p", .text ".evil.example")]⟩

theorem isBaseUrl_api : IsBaseUrl "https://api.example.com" "https" "api.example.com" [] where
  eq := rfl
  scheme := List.all_eq_true.mp (by decide)
  authority_ne_nil := by decide
  authority := by
    have hall : ("api.example.com".toList.all fun c => !Authority.isEnd c) = true := by decide
    simpa only [List.all_eq_true, Bool.not_eq_true'] using hall
  rest := Authority.ends_nil

/-- A path that is an expression, behind a host. -/
theorem exists_suffix : ∃ t r,
    (initial .utf8 (some .exploded) (some true)).run
      ([] ++ .target "https://api.example.com" :: [.uri "\x7bp\x7d" false]) = .ok t ∧
    t.resolve suffixVariables = .ok r ∧
    r.resolution = some ⟨"https://api.example.com.evil.example", []⟩ := by
  have hrun : ((initial .utf8 (some .exploded) (some true)).run
      ([] ++ .target "https://api.example.com" :: [.uri "\x7bp\x7d" false])).toOption.any
        (fun t => (t.resolve suffixVariables).toOption.any
          fun r => r.resolution = some ⟨"https://api.example.com.evil.example", []⟩) = true := by
    decide +kernel
  obtain ⟨t, ht, hcheck⟩ := exists_ok_of_any hrun
  obtain ⟨r, hr, hresolution⟩ := exists_ok_of_any hcheck
  exact ⟨t, r, ht, hr, of_decide_eq_true hresolution⟩

/-- Setting a target and a path with a slash in front keeps the path rooted. -/
theorem keepsRoot_slash : (initial .utf8 (some .exploded) (some true)).KeepsRoot
    ([] ++ .target "https://api.example.com" :: [.uri "/\x7bp\x7d" false]) := by
  intro done call rest v hsplit _
  have hmem : call ∈ done ++ call :: rest := by simp
  rw [← hsplit, List.nil_append, List.mem_cons, List.mem_singleton] at hmem
  obtain rfl | rfl := hmem
  · trivial
  · exact ⟨by decide, by decide⟩

/-- A path with a slash in front keeps the host from a value. -/
theorem written_resolve_slash : ∃ t r url headers,
    (initial .utf8 (some .exploded) (some true)).run
      ([] ++ .target "https://api.example.com" :: [.uri "/\x7bp\x7d" false]) = .ok t ∧
    t.resolve suffixVariables = .ok r ∧ r.resolution = some ⟨url, headers⟩ ∧
    written url = "api.example.com".toList := by
  have hrun : ((initial .utf8 (some .exploded) (some true)).run
      ([] ++ .target "https://api.example.com" :: [.uri "/\x7bp\x7d" false])).toOption.any
        (fun t => (t.resolve suffixVariables).toOption.any fun _ => true) = true := by
    decide +kernel
  obtain ⟨t, ht, hcheck⟩ := exists_ok_of_any hrun
  obtain ⟨r, hr, -⟩ := exists_ok_of_any hcheck
  obtain ⟨url, headers, path, hresolution, -, -, -, hkept⟩ :=
    written_resolve_iff isBaseUrl_api (by simp) ht hr
  refine ⟨t, r, url, headers, ht, hr, hresolution, ?_⟩
  rw [hkept Charset.isAsciiCompatible_utf8 keepsRoot_slash]
  decide

/-- A value can name another host. -/
theorem not_written_suffix : ¬ ∀ (before after : List Call) (target scheme authority rest : Text)
    (t r : RequestTemplate) (vars : Variables) (res : Resolution),
    IsBaseUrl target scheme authority rest → (∀ url, .target url ∉ after) →
    (initial .utf8 (some .exploded) (some true)).run (before ++ .target target :: after) = .ok t →
    t.resolve vars = .ok r → r.resolution = some res → written res.url = written target := by
  intro h
  obtain ⟨t, r, ht, hr, hresolution⟩ := exists_suffix
  have hsame := h _ _ _ _ _ _ t r _ _ isBaseUrl_api (by simp) ht hr hresolution
  exact absurd hsame (by decide)

end RequestTemplate

end HttpTemplates
