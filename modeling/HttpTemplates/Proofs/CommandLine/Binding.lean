import HttpTemplates.CommandLine.Binding
import HttpTemplates.Proofs.Request.Headers
import HttpTemplates.Proofs.Text.Splitting

/-!
# Variables from bindings

Bindings are read one after the other, and a name may come back at any later place. Whatever has been
read so far, the fields at hand are those bindings `grouped` by name: one field for each distinct name,
in the order of first occurrence, with all texts for it in order. One more binding keeps that
(`addBinding_grouped`), and so a whole list of them gives its groups or stops at the first malformed
one (`addBindings_grouped`). **A list of bindings fails exactly if some binding has no equals sign or
no name, and otherwise gives each name its text or the list of its texts**
(`readVariables_outcome`).

The program makes values of the texts when all have been read. The same variables come out if the
values themselves grow on the way, from a text to a list of two and then at the end of the list
(`readVariables_eq_foldlM`).
-/

namespace HttpTemplates

/-! ### Tables with a field for each name -/

namespace Fields

variable {α β : Type}

/-- Putting a value under a name of a table changes the value there. -/
theorem insert_map_of_mem {names : List Text} {name : Text} (f : Text → α) (value : α)
    (hnodup : names.Nodup) (hname : name ∈ names) :
    Fields.insert name value (names.map fun n => (n, f n)) =
      names.map fun n => (n, Function.update f name value n) := by
  induction names with
  | nil => exact absurd hname List.not_mem_nil
  | cons n names ih =>
      obtain ⟨hn, hnodup⟩ := List.nodup_cons.mp hnodup
      rw [List.map_cons, List.map_cons, insert]
      by_cases h : n = name
      · subst h
        rw [if_pos rfl, Function.update_self]
        congr 1
        refine List.map_congr_left fun m hm => ?_
        rw [Function.update_of_ne (ne_of_mem_of_not_mem hm hn)]
      · rw [if_neg h, Function.update_of_ne h,
          ih hnodup ((List.mem_cons.mp hname).resolve_left (Ne.symm h))]

/-- Changing all values by a function and putting one in may be done in either order. -/
theorem map_insert (f : α → β) (fields : Fields α) (name : Text) (value : α) :
    (fields.insert name value).map (fun p => (p.1, f p.2)) =
      Fields.insert name (f value) (fields.map fun p => (p.1, f p.2)) := by
  induction fields with
  | nil => rfl
  | cons p rest ih =>
      rw [insert, List.map_cons, insert]
      by_cases h : p.1 = name
      · rw [if_pos h, if_pos h, List.map_cons]
      · rw [if_neg h, if_neg h, List.map_cons, ih]

theorem get?_map (f : α → β) (fields : Fields α) (name : Text) :
    get? (fields.map fun p => (p.1, f p.2)) name = (get? fields name).map f := by
  induction fields with
  | nil => rfl
  | cons p rest ih =>
      rw [get?, get?, List.map_cons, List.lookup_cons, List.lookup_cons]
      cases name == p.1 with
      | true => rfl
      | false => exact ih

end Fields

/-- Variables with different names are those names with their values. -/
theorem Variables.bindings_eq_map {vars : Variables} (h : (vars.bindings.map (·.1)).Nodup) :
    vars.bindings = (vars.bindings.map (·.1)).map fun name => (name, vars.get name) := by
  obtain ⟨bindings⟩ := vars
  induction bindings with
  | nil => rfl
  | cons p rest ih =>
      obtain ⟨hp, hrest⟩ := List.nodup_cons.mp h
      have hget : ∀ name ∈ rest.map (·.1), get ⟨p :: rest⟩ name = get ⟨rest⟩ name := by
        intro name hname
        have hne : (name == p.1) = false := beq_false_of_ne (ne_of_mem_of_not_mem hname hp)
        rw [get, get, List.lookup_cons, hne]
      have hself : get ⟨p :: rest⟩ p.1 = p.2 := by
        rw [get, List.lookup_cons, beq_self_eq_true]
        rfl
      rw [List.map_cons, List.map_cons, hself, List.map_congr_left fun n hn => by rw [hget n hn],
        ← ih hrest]

namespace CommandLine

/-! ### A single binding -/

/-- The name in a binding: what stands in front of its first equals sign. -/
def nameIn (raw : Text) : Text :=
  raw.takeWhile (· ≠ '=')

/-- The text in a binding: what follows its first equals sign. -/
def textIn (raw : Text) : Text :=
  (raw.dropWhile (· ≠ '=')).tail

/-- A binding has no equals sign, or no name in front of the first one. -/
def IsMalformed (raw : Text) : Prop :=
  '=' ∉ raw ∨ nameIn raw = []

instance : DecidablePred IsMalformed := fun _ => inferInstanceAs (Decidable (_ ∨ _))

theorem binding?_eq (raw : Text) :
    binding? raw = if IsMalformed raw then none else some (nameIn raw, textIn raw) := by
  by_cases heq : '=' ∈ raw
  · have hcut : Text.cut '=' raw = (nameIn raw, some (textIn raw)) := by
      rw [Text.cut_eq_takeWhile, if_pos heq, nameIn, textIn]
    simp [binding?, hcut, IsMalformed, heq]
  · have hcut : Text.cut '=' raw = (raw, none) := Text.cut_of_not_mem heq
    simp [binding?, hcut, IsMalformed, heq]

/-! ### Groups -/

/-- The names in bindings, each at its first occurrence. -/
def namesIn (raws : List Text) : List Text :=
  (raws.map nameIn).eraseDups

/-- The texts that bindings give for a name, in order. -/
def textsFor (raws : List Text) (name : Text) : List Text :=
  (raws.filter (nameIn · = name)).map textIn

/-- The texts of bindings by name. -/
def grouped (raws : List Text) : Fields (List Text) :=
  (namesIn raws).map fun name => (name, textsFor raws name)

theorem nodup_namesIn (raws : List Text) : (namesIn raws).Nodup := by
  rw [namesIn, ← HeaderTemplate.distinct_eq_eraseDups]
  exact HeaderTemplate.nodup_distinct _

theorem mem_namesIn {raws : List Text} {name : Text} :
    name ∈ namesIn raws ↔ ∃ raw ∈ raws, nameIn raw = name := by
  rw [namesIn, List.mem_eraseDups, List.mem_map]

/-- One more binding adds its name unless that has been there. -/
theorem namesIn_append (raws : List Text) (raw : Text) :
    namesIn (raws ++ [raw]) =
      if nameIn raw ∈ namesIn raws then namesIn raws else namesIn raws ++ [nameIn raw] := by
  rw [namesIn, List.map_append, List.eraseDups_append, List.map_singleton, ← namesIn]
  by_cases h : nameIn raw ∈ namesIn raws
  · have hmem : nameIn raw ∈ raws.map nameIn := List.mem_eraseDups.mp h
    rw [if_pos h, List.removeAll, List.filter_cons, if_neg (by simpa using hmem)]
    exact List.append_nil _
  · have hmem : nameIn raw ∉ raws.map nameIn := fun hmem => h (List.mem_eraseDups.mpr hmem)
    rw [if_neg h, List.removeAll, List.filter_cons, if_pos (by simpa using hmem)]
    rfl

/-- One more binding adds its text to those of its name. -/
theorem textsFor_append (raws : List Text) (raw : Text) :
    textsFor (raws ++ [raw]) =
      Function.update (textsFor raws) (nameIn raw) (textsFor raws (nameIn raw) ++ [textIn raw]) := by
  funext name
  rw [textsFor, List.filter_append, List.map_append, ← textsFor, List.filter_singleton]
  by_cases h : name = nameIn raw
  · subst h
    simp
  · simp [h, Ne.symm h]

theorem textsFor_eq_nil_iff {raws : List Text} {name : Text} :
    textsFor raws name = [] ↔ name ∉ namesIn raws := by
  simp [textsFor, mem_namesIn]

/-- Each occurrence of a name gives it a text. -/
theorem length_textsFor (raws : List Text) (name : Text) :
    (textsFor raws name).length = (raws.map nameIn).count name := by
  rw [textsFor, List.length_map, List.count_eq_length_filter, List.filter_map, List.length_map]
  simp only [Function.comp_def, beq_eq_decide]

theorem mem_textsFor {raws : List Text} {raw : Text} (h : raw ∈ raws) :
    textIn raw ∈ textsFor raws (nameIn raw) :=
  List.mem_map_of_mem (List.mem_filter.mpr ⟨h, decide_eq_true rfl⟩)

theorem get?_grouped_of_mem {raws : List Text} {name : Text} (h : name ∈ namesIn raws) :
    Fields.get? (grouped raws) name = some (textsFor raws name) :=
  List.lookup_graph (textsFor raws) h

theorem get?_grouped_of_notMem {raws : List Text} {name : Text} (h : name ∉ namesIn raws) :
    Fields.get? (grouped raws) name = none := by
  refine List.lookup_eq_none_iff.mpr fun p hp => ?_
  obtain ⟨n, hn, rfl⟩ := List.mem_map.mp hp
  exact bne_iff_ne.mpr (ne_of_mem_of_not_mem hn h).symm

theorem getD_get?_grouped (raws : List Text) (name : Text) :
    (Fields.get? (grouped raws) name).getD [] = textsFor raws name := by
  by_cases h : name ∈ namesIn raws
  · rw [get?_grouped_of_mem h, Option.getD_some]
  · rw [get?_grouped_of_notMem h, Option.getD_none, textsFor_eq_nil_iff.mpr h]

/-- **One more binding gives the groups of one more binding.** -/
theorem addBinding_grouped (raws : List Text) (raw : Text) :
    addBinding (grouped raws) (nameIn raw) (textIn raw) = grouped (raws ++ [raw]) := by
  rw [addBinding, getD_get?_grouped, grouped, grouped, namesIn_append, textsFor_append]
  by_cases h : nameIn raw ∈ namesIn raws
  · rw [if_pos h, Fields.insert_map_of_mem _ _ (nodup_namesIn raws) h]
  · have hnew : nameIn raw ∉ ((namesIn raws).map fun n => (n, textsFor raws n)).map (·.1) := by
      simpa using h
    rw [if_neg h, Fields.insert_of_notMem _ hnew, List.map_append, List.map_singleton,
      Function.update_self]
    congr 1
    refine List.map_congr_left fun n hn => ?_
    rw [Function.update_of_ne (ne_of_mem_of_not_mem hn h)]

/-! ### Reading -/

/-- **From the groups of what has been read, the groups of everything are reached**, unless a binding
is malformed. -/
theorem addBindings_grouped (read rest : List Text) :
    addBindings (grouped read) rest =
      match rest.find? (IsMalformed ·) with
      | some raw => .error (.usage (.badBinding raw))
      | none => .ok (grouped (read ++ rest)) := by
  -- What is left gets shorter; that the fields are the groups of what has been read is kept.
  induction rest generalizing read with
  | nil => rw [addBindings, List.find?_nil, List.append_nil]
  | cons raw rest ih =>
      rw [addBindings, binding?_eq, List.find?_cons]
      by_cases h : IsMalformed raw
      · rw [if_pos h, decide_eq_true h]
      · have hstep := ih (read ++ [raw])
        rw [← addBinding_grouped, List.append_assoc] at hstep
        rw [if_neg h, decide_eq_false h]
        exact hstep

theorem readBindings_eq (raws : List Text) :
    readBindings raws =
      match raws.find? (IsMalformed ·) with
      | some raw => .error (.usage (.badBinding raw))
      | none => .ok (grouped raws) :=
  addBindings_grouped [] raws

example : readBindings ["b=1", "a=x=y", "b=", "b=1"] =
    .ok [("b", ["1", [], "1"]), ("a", ["x=y"])] := by
  rfl

theorem reduceOption_map_some (raws : List Text) : (raws.map some).reduceOption = raws := by
  show (raws.map some).filterMap id = raws
  rw [List.filterMap_map]
  exact List.filterMap_some

theorem readGiven_map_some (raws : List Text) :
    readGiven (raws.map some) = readBindings raws := by
  have hfront : (raws.map some).takeWhile Option.isSome = raws.map some :=
    List.takeWhile_eq_self_iff.mpr (by simp)
  rw [readGiven, hfront, reduceOption_map_some]
  cases readBindings raws with
  | error e => rfl
  | ok bound => simp [bind, Except.bind]

/-! ### Variables -/

/-- The variables that texts on a command line give. -/
def readVariables (raws : List Text) : Except Error Variables :=
  (readGiven (raws.map some)).map variablesOf

/-- What bindings make of variables. -/
structure Binds (raws : List Text) (vars : Variables) : Prop where
  /-- The variables are the distinct names, in the order of first occurrence. -/
  names : vars.bindings.map (·.1) = namesIn raws
  /-- A name that occurs once stands for its text. -/
  once : ∀ raw ∈ raws, (raws.map nameIn).count (nameIn raw) = 1 →
    vars.get (nameIn raw) = .text (textIn raw)
  /-- A name that occurs several times stands for the list of its texts, in order. -/
  several : ∀ raw ∈ raws, 1 < (raws.map nameIn).count (nameIn raw) →
    vars.get (nameIn raw) = .list ((textsFor raws (nameIn raw)).map .text)

theorem valueOfTexts_of_one_lt {ts : List Text} (h : 1 < ts.length) :
    valueOfTexts ts = .list (ts.map .text) := by
  match ts, h with
  | _ :: _ :: _, _ => rfl

theorem get_variablesOf_grouped {raws : List Text} {raw : Text} (h : raw ∈ raws) :
    (variablesOf (grouped raws)).get (nameIn raw) =
      valueOfTexts (textsFor raws (nameIn raw)) := by
  have hget := Fields.get?_map valueOfTexts (grouped raws) (nameIn raw)
  rw [get?_grouped_of_mem (mem_namesIn.mpr ⟨raw, h, rfl⟩)] at hget
  exact congrArg (Option.getD · Value.null) hget

theorem binds_grouped (raws : List Text) : Binds raws (variablesOf (grouped raws)) where
  names := by
    rw [variablesOf, grouped, List.map_map, List.map_map]
    exact List.map_id _
  once raw hraw hcount := by
    rw [← length_textsFor] at hcount
    obtain ⟨t, ht⟩ := List.length_eq_one_iff.mp hcount
    have hmem := mem_textsFor hraw
    rw [ht] at hmem
    rw [get_variablesOf_grouped hraw, ht, ← List.mem_singleton.mp hmem]
    rfl
  several raw hraw hcount := by
    rw [← length_textsFor] at hcount
    rw [get_variablesOf_grouped hraw, valueOfTexts_of_one_lt hcount]

/-- Bindings leave nothing about their variables open. -/
theorem Binds.unique {raws : List Text} {vars vars' : Variables} (h : Binds raws vars)
    (h' : Binds raws vars') : vars = vars' := by
  have hget : ∀ name ∈ namesIn raws, vars.get name = vars'.get name := by
    intro name hname
    obtain ⟨raw, hraw, rfl⟩ := mem_namesIn.mp hname
    have hpos : 0 < (raws.map nameIn).count (nameIn raw) :=
      List.count_pos_iff.mpr (List.mem_map_of_mem hraw)
    rcases Nat.eq_or_lt_of_le hpos with hone | hseveral
    · rw [h.once raw hraw hone.symm, h'.once raw hraw hone.symm]
    · rw [h.several raw hraw hseveral, h'.several raw hraw hseveral]
  have hmap := Variables.bindings_eq_map (h.names.symm ▸ nodup_namesIn raws)
  have hmap' := Variables.bindings_eq_map (h'.names.symm ▸ nodup_namesIn raws)
  rw [h.names] at hmap
  rw [h'.names] at hmap'
  have heq : vars.bindings = vars'.bindings := by
    rw [hmap, hmap']
    exact List.map_congr_left fun name hname => by rw [hget name hname]
  cases vars
  cases vars'
  exact congrArg _ heq

theorem readVariables_eq (raws : List Text) :
    readVariables raws =
      match raws.find? (IsMalformed ·) with
      | some raw => .error (.usage (.badBinding raw))
      | none => .ok (variablesOf (grouped raws)) := by
  rw [readVariables, readGiven_map_some, readBindings_eq]
  cases raws.find? (IsMalformed ·) <;> rfl

/-- **What bindings stand for.** They are refused exactly if one of them has no equals sign or no name
in front of its first one, and then the first such binding is named. Otherwise their variables are
the distinct names, each with its text or, if it occurs several times, the list of its texts. -/
theorem readVariables_outcome (raws : List Text) :
    ((∃ e, readVariables raws = .error e) ↔ ∃ raw ∈ raws, IsMalformed raw) ∧
    (∀ e, readVariables raws = .error e ↔
      ∃ raw, raws.find? (IsMalformed ·) = some raw ∧ e = .usage (.badBinding raw) ∧
        e.message =
          ("invalid variable binding " : Text) ++ Text.quoted raw ++ ", expected NAME=VALUE") ∧
    (∀ vars, readVariables raws = .ok vars ↔
      (∀ raw ∈ raws, ¬ IsMalformed raw) ∧ Binds raws vars) := by
  rw [readVariables_eq]
  cases hfind : raws.find? (IsMalformed ·) with
  | some raw =>
      have hraw : raw ∈ raws := List.mem_of_find?_eq_some hfind
      have hbad : IsMalformed raw := by
        simpa using List.find?_some hfind
      refine ⟨iff_of_true ⟨_, rfl⟩ ⟨raw, hraw, hbad⟩, fun e => ?_, fun vars => ?_⟩
      · constructor
        · rintro ⟨⟩
          exact ⟨raw, rfl, rfl, rfl⟩
        · rintro ⟨_, ⟨⟩, rfl, -⟩
          rfl
      · exact iff_of_false (by simp) fun h => h.1 raw hraw hbad
  | none =>
      have hgood : ∀ raw ∈ raws, ¬ IsMalformed raw := by
        simpa using List.find?_eq_none.mp hfind
      refine ⟨iff_of_false (by simp) fun ⟨raw, hraw, hbad⟩ => hgood raw hraw hbad,
        fun e => iff_of_false (by simp) (by simp), fun vars => ?_⟩
      constructor
      · rintro ⟨⟩
        exact ⟨hgood, binds_grouped raws⟩
      · rintro ⟨-, hvars⟩
        rw [hvars.unique (binds_grouped raws)]

/-! ### Values that grow -/

/-- One more text for a variable: without a value it gets the text, one text becomes a list of two,
and a list gets longer. -/
def addText (vars : Variables) (name text : Text) : Variables :=
  ⟨Fields.insert name
    (match Fields.get? vars.bindings name with
      | none => .text text
      | some (.list items) => .list (items ++ [.text text])
      | some value => .list [value, .text text]) vars.bindings⟩

/-- Adds the text of a binding to its variable. -/
def addRaw (vars : Variables) (raw : Text) : Except Error Variables :=
  match binding? raw with
  | some (name, text) => .ok (addText vars name text)
  | none => .error (.usage (.badBinding raw))

/-- Values may be made of the texts before or after one more text is added. -/
theorem variablesOf_addBinding {bound : Fields (List Text)} {name : Text}
    (h : Fields.get? bound name ≠ some []) (text : Text) :
    variablesOf (addBinding bound name text) = addText (variablesOf bound) name text := by
  rw [variablesOf, addBinding, Fields.map_insert, addText, variablesOf, Fields.get?_map]
  cases hget : Fields.get? bound name with
  | none => rfl
  | some ts =>
      -- No texts at all would be an empty list, which grows to a list of one and not to a text.
      match ts, hget with
      | [], hget => exact absurd hget h
      | [_], _ => rfl
      | _ :: _ :: _, _ => simp [valueOfTexts]

theorem get?_grouped_ne_nil (raws : List Text) (name : Text) :
    Fields.get? (grouped raws) name ≠ some [] := by
  by_cases h : name ∈ namesIn raws
  · rw [get?_grouped_of_mem h, ne_eq, Option.some_inj, textsFor_eq_nil_iff]
    exact not_not_intro h
  · rw [get?_grouped_of_notMem h]
    exact Option.some_ne_none [] ∘ Eq.symm

/-- From values made of what has been read, adding texts to values leads to the values made of
everything. -/
theorem addBindings_eq_foldlM (read rest : List Text) :
    (addBindings (grouped read) rest).map variablesOf =
      rest.foldlM addRaw (variablesOf (grouped read)) := by
  induction rest generalizing read with
  | nil => rfl
  | cons raw rest ih =>
      rw [addBindings, List.foldlM_cons, addRaw, binding?_eq]
      by_cases h : IsMalformed raw
      · rw [if_pos h]
        rfl
      · have hgrow := variablesOf_addBinding (get?_grouped_ne_nil read (nameIn raw)) (textIn raw)
        have hstep := ih (read ++ [raw])
        rw [← addBinding_grouped, hgrow] at hstep
        rw [if_neg h]
        exact hstep

/-- **The variables are those that grow binding by binding.** -/
theorem readVariables_eq_foldlM (raws : List Text) :
    readVariables raws = raws.foldlM addRaw Variables.empty := by
  rw [readVariables, readGiven_map_some]
  exact addBindings_eq_foldlM [] raws

end CommandLine

end HttpTemplates
