import HttpTemplates.Proofs.Success
import Mathlib.Data.List.Forall2
import Mathlib.Data.List.Nodup

/-!
# Ledgers

A ledger is what a history of changes comes to: for each key that something was put under since the
key was last removed, the key and all that was put there since, in the order of the first of these
changes. `ledger` reads this off the history; `ledger_put_known`, `ledger_put_new` and
`ledger_remove` say how one more change shows in it.

`Tracks` relates a list to the ledger of a history, entry by entry. A list that is filtered where
the ledger is keeps the relation (`Tracks.remove`), and so does one in which the elements of a key
take a step, or which is extended if there are none (`Tracks.put`). `updateWhere` is the loop that
takes such a step.
-/

namespace HttpTemplates

/-- A change of what stands under a key. -/
inductive Change (κ α : Type) where
  /-- Something is put under the key. -/
  | put (key : κ) (item : α)
  /-- All that stands under the key is removed. -/
  | remove (key : κ)

namespace Change

variable {κ α β : Type} [DecidableEq κ]

/-- Whether a key is removed by one of the changes. -/
def isRemoved (k : κ) : List (Change κ α) → Bool
  | [] => false
  | .put _ _ :: h => isRemoved k h
  | .remove k' :: h => k' = k || isRemoved k h

/-- What was put under a key since its last removal. -/
def itemsOf (k : κ) : List (Change κ α) → List α
  | [] => []
  | .put k' a :: h => if k' = k && !isRemoved k h then a :: itemsOf k h else itemsOf k h
  | .remove _ :: h => itemsOf k h

/-- The keys under which something was put since their last removal, by the first such change. -/
def keys : List (Change κ α) → List κ
  | [] => []
  | .put k _ :: h => if isRemoved k h then keys h else k :: (keys h).filter (· ≠ k)
  | .remove _ :: h => keys h

/-- The keys of a history and what stands under them at its end. -/
def ledger (h : List (Change κ α)) : List (κ × List α) :=
  (keys h).map fun k => (k, itemsOf k h)

variable {h : List (Change κ α)} {k k' : κ} {a : α}

/-! ### One more change -/

theorem isRemoved_append_put (h : List (Change κ α)) (k k' : κ) (a : α) :
    isRemoved k (h ++ [.put k' a]) = isRemoved k h := by
  induction h with
  | nil => rfl
  | cons c h ih => cases c <;> simp [isRemoved, ih]

theorem isRemoved_append_remove (h : List (Change κ α)) (k k' : κ) :
    isRemoved k (h ++ [.remove k']) = (isRemoved k h || k' = k) := by
  induction h with
  | nil => simp [isRemoved]
  | cons c h ih => cases c <;> simp [isRemoved, ih, Bool.or_assoc]

theorem itemsOf_append_put (h : List (Change κ α)) (k k' : κ) (a : α) :
    itemsOf k (h ++ [.put k' a]) = itemsOf k h ++ if k' = k then [a] else [] := by
  induction h with
  | nil => simp [itemsOf, isRemoved]
  | cons c h ih =>
      cases c with
      | remove _ => exact ih
      | put j b =>
          rw [List.cons_append, itemsOf, itemsOf, isRemoved_append_put, ih]
          split <;> rfl

theorem itemsOf_append_remove (h : List (Change κ α)) (k k' : κ) :
    itemsOf k (h ++ [.remove k']) = if k' = k then [] else itemsOf k h := by
  induction h with
  | nil => simp [itemsOf]
  | cons c h ih =>
      cases c with
      | remove _ => exact ih
      | put j b =>
          rw [List.cons_append, itemsOf, itemsOf, isRemoved_append_remove, ih]
          by_cases hk : k' = k <;> simp [hk]

theorem mem_keys_iff : k ∈ keys h ↔ itemsOf k h ≠ [] := by
  induction h with
  | nil => simp [keys, itemsOf]
  | cons c h ih =>
      cases c with
      | remove _ => exact ih
      | put j b =>
          rw [keys, itemsOf]
          by_cases hj : j = k
          · subst hj
            by_cases hr : isRemoved j h = true
            · simp [hr, ih]
            · simp [hr]
          · split <;> simp [hj, Ne.symm hj, ih]

theorem itemsOf_eq_nil (hk : k ∉ keys h) : itemsOf k h = [] := by
  by_contra hne
  exact hk (mem_keys_iff.mpr hne)

theorem nodup_keys (h : List (Change κ α)) : (keys h).Nodup := by
  induction h with
  | nil => exact List.nodup_nil
  | cons c h ih =>
      cases c with
      | remove _ => exact ih
      | put k b =>
          rw [keys]
          split
          · exact ih
          · exact List.nodup_cons.mpr ⟨by simp, ih.filter _⟩

theorem keys_append_put (h : List (Change κ α)) (k : κ) (a : α) :
    keys (h ++ [.put k a]) = if k ∈ keys h then keys h else keys h ++ [k] := by
  induction h with
  | nil => simp [keys, isRemoved]
  | cons c h ih =>
      cases c with
      | remove _ => exact ih
      | put j b =>
          rw [List.cons_append, keys, keys, isRemoved_append_put, ih]
          split
          · rfl
          -- The new key is dropped behind `j` if it is `j` itself.
          by_cases hk : k = j
          · subst hk
            by_cases hmem : k ∈ keys h <;> simp [hmem]
          · by_cases hmem : k ∈ keys h <;> simp [hmem, hk]

theorem keys_append_remove (h : List (Change κ α)) (k : κ) :
    keys (h ++ [.remove k]) = (keys h).filter (· ≠ k) := by
  induction h with
  | nil => rfl
  | cons c h ih =>
      cases c with
      | remove _ => exact ih
      | put j b =>
          rw [List.cons_append, keys, keys, isRemoved_append_remove, ih]
          by_cases hr : isRemoved j h = true
          · simp [hr]
          -- The change at the front counted until now; it goes with its key or stays in front.
          by_cases hk : k = j
          · subst hk
            simp [hr, List.filter_filter]
          · simp [hr, hk, Ne.symm hk, List.filter_filter, Bool.and_comm]

theorem ledger_put_known (hk : k ∈ keys h) :
    ledger (h ++ [.put k a]) =
      (ledger h).map fun e => if e.1 = k then (e.1, e.2 ++ [a]) else e := by
  unfold ledger
  rw [keys_append_put, if_pos hk, List.map_map]
  refine List.map_congr_left fun j _ => ?_
  by_cases hj : j = k
  · simp [itemsOf_append_put, hj]
  · simp [itemsOf_append_put, hj, Ne.symm hj]

theorem ledger_put_new (hk : k ∉ keys h) :
    ledger (h ++ [.put k a]) = ledger h ++ [(k, [a])] := by
  unfold ledger
  rw [keys_append_put, if_neg hk, List.map_append]
  congr 1
  · refine List.map_congr_left fun j hj => ?_
    have hne : k ≠ j := fun heq => hk (heq ▸ hj)
    simp [itemsOf_append_put, hne]
  · simp [itemsOf_append_put, itemsOf_eq_nil hk]

theorem ledger_remove :
    ledger (h ++ [.remove k]) = (ledger h).filter fun e => e.1 ≠ k := by
  unfold ledger
  rw [keys_append_remove, List.filter_map]
  refine List.map_congr_left fun j hj => ?_
  have hne : k ≠ j := Ne.symm (by simpa using (List.mem_filter.mp hj).2)
  rw [itemsOf_append_remove, if_neg hne]

/-- A key that comes back after its removal comes last. -/
example : ledger [put 'a' 1, put 'b' 2, put 'a' 3, remove 'a', put 'c' 4, put 'a' 5, put 'b' 6] =
    [('b', [2, 6]), ('c', [4]), ('a', [5])] := by
  decide

/-! ### Lists that follow a ledger -/

/-- A list with one element for each entry of the ledger of a history, in this order. -/
def Tracks (R : κ × List α → β → Prop) (h : List (Change κ α)) (bs : List β) : Prop :=
  List.Forall₂ R (ledger h) bs

/-- Takes a step at every element of a list that passes a test, and tells whether there is one. -/
def updateWhere {ε : Type} (p : β → Bool) (step : β → Except ε β) :
    List β → Except ε (List β × Bool)
  | [] => .ok ([], false)
  | b :: bs => do
    let found := p b
    let head ← if found then step b else .ok b
    let (tail, more) ← updateWhere p step bs
    .ok (head :: tail, found || more)

/-- A list in which the elements of one key take a step. -/
def Updates (key : β → κ) (k : κ) (step : β → β → Prop) (bs bs' : List β) : Prop :=
  List.Forall₂ (fun b b' => if key b = k then step b b' else b' = b) bs bs'

section Tracks

variable {R : κ × List α → β → Prop} {key : β → κ} {bs bs' : List β}

theorem Tracks.map_eq {γ : Type} {f : κ × List α → γ} {g : β → γ} (ht : Tracks R h bs)
    (hR : ∀ e b, R e b → g b = f e) : bs.map g = (ledger h).map f := by
  unfold Tracks at ht
  generalize ledger h = es at ht ⊢
  induction ht with
  | nil => rfl
  | cons hb _ ih => rw [List.map_cons, List.map_cons, ih, hR _ _ hb]

theorem Tracks.exists_entry (ht : Tracks R h bs) : ∀ b ∈ bs, ∃ e, R e b := by
  unfold Tracks at ht
  generalize ledger h = es at ht
  induction ht with
  | nil => simp
  | cons hb _ ih =>
      intro b hmem
      obtain rfl | hmem := List.mem_cons.mp hmem
      · exact ⟨_, hb⟩
      · exact ih b hmem

/-- The keys of the list are those of the ledger. -/
theorem Tracks.map_key (ht : Tracks R h bs) (hR : ∀ e b, R e b → key b = e.1) :
    bs.map key = keys h := by
  rw [ht.map_eq hR, ledger, List.map_map]
  exact List.map_id _

theorem Tracks.any_iff (ht : Tracks R h bs) (hR : ∀ e b, R e b → key b = e.1) :
    bs.any (fun b => key b = k) = true ↔ k ∈ keys h := by
  rw [← ht.map_key hR]
  simp

/-- What the first element with a key reads. -/
theorem Tracks.find?_eq {γ : Type} {g : β → γ} (ht : Tracks R h bs) (f : List α → γ)
    (hR : ∀ e b, R e b → key b = e.1) (hg : ∀ e b, R e b → g b = f e.2) (k : κ) :
    (bs.find? fun b => key b = k).map g = if k ∈ keys h then some (f (itemsOf k h)) else none := by
  unfold Tracks ledger at ht
  rw [List.forall₂_map_left_iff] at ht
  generalize keys h = ks at ht ⊢
  induction ht with
  | nil => rfl
  | @cons j b ks bs hb _ ih =>
      have hj : key b = j := hR _ _ hb
      by_cases hjk : j = k
      · subst hjk
        rw [List.find?_cons_of_pos (by simpa using hj), if_pos (List.mem_cons_self ..),
          Option.map_some, hg _ _ hb]
      · rw [List.find?_cons_of_neg (by simpa [hj] using hjk), ih]
        simp [Ne.symm hjk]

theorem updateWhere_eq_ok {ε : Type} {p : β → Bool} {step : β → Except ε β}
    {r : List β × Bool} (hp : ∀ b, p b = decide (key b = k))
    (hr : updateWhere p step bs = .ok r) :
    r.2 = bs.any (fun b => key b = k) ∧ Updates key k (fun b b' => step b = .ok b') bs r.1 := by
  induction bs generalizing r with
  | nil =>
      rw [← Except.ok.inj hr]
      exact ⟨rfl, .nil⟩
  | cons b bs ih =>
      rw [updateWhere, hp b] at hr
      by_cases hb : key b = k
      · rw [if_pos (by simpa using hb)] at hr
        obtain ⟨b', hb', hr⟩ := bind_eq_ok_iff.mp hr
        obtain ⟨⟨tail, more⟩, htail, hr⟩ := bind_eq_ok_iff.mp hr
        rw [← Except.ok.inj hr]
        exact ⟨by simp [hb], .cons (by rwa [if_pos hb]) (ih htail).2⟩
      · rw [if_neg (by simpa using hb), bind_ok] at hr
        obtain ⟨⟨tail, more⟩, htail, hr⟩ := bind_eq_ok_iff.mp hr
        rw [← Except.ok.inj hr]
        exact ⟨by simpa [hb] using (ih htail).1, .cons (by rw [if_neg hb]) (ih htail).2⟩

/-- A property that every step keeps is kept at a whole list. -/
theorem updateWhere_forall {ε : Type} {P : β → Prop} {p : β → Bool} {step : β → Except ε β}
    {r : List β × Bool} (hstep : ∀ b b', P b → step b = .ok b' → P b') (hbs : ∀ b ∈ bs, P b)
    (hr : updateWhere p step bs = .ok r) : ∀ b ∈ r.1, P b := by
  induction bs generalizing r with
  | nil =>
      rw [← Except.ok.inj hr]
      exact hbs
  | cons b bs ih =>
      obtain ⟨hb, hbs⟩ := List.forall_mem_cons.mp hbs
      rw [updateWhere] at hr
      cases hp : p b with
      | true =>
          rw [hp, if_pos rfl] at hr
          obtain ⟨b', hb', hr⟩ := bind_eq_ok_iff.mp hr
          obtain ⟨⟨tail, more⟩, htail, hr⟩ := bind_eq_ok_iff.mp hr
          rw [← Except.ok.inj hr]
          exact List.forall_mem_cons.mpr ⟨hstep b b' hb hb', ih hbs htail⟩
      | false =>
          rw [hp, if_neg (by simp), bind_ok] at hr
          obtain ⟨⟨tail, more⟩, htail, hr⟩ := bind_eq_ok_iff.mp hr
          rw [← Except.ok.inj hr]
          exact List.forall_mem_cons.mpr ⟨hb, ih hbs htail⟩

/-- A step that commutes with a change of the elements does so at a whole list. -/
theorem updateWhere_map {ε : Type} {p : β → Bool} {step step' : β → Except ε β} {g : β → β}
    (hp : ∀ b, p (g b) = p b) (hstep : ∀ b, step' (g b) = (step b).map g) (bs : List β) :
    updateWhere p step' (bs.map g) = (updateWhere p step bs).map fun r => (r.1.map g, r.2) := by
  induction bs with
  | nil => rfl
  | cons b bs ih =>
      rw [List.map_cons, updateWhere, updateWhere, ih, hp, hstep]
      cases p b with
      | true =>
          rw [if_pos rfl, if_pos rfl]
          exact map_bind_eq_map_bind rfl fun _ => map_bind_eq_map_bind rfl fun _ => rfl
      | false =>
          rw [if_neg (by simp), if_neg (by simp), bind_ok, bind_ok]
          exact map_bind_eq_map_bind rfl fun _ => rfl

/-- Without the key nothing takes a step. -/
theorem Updates.eq_self {step : β → β → Prop} (hbs : Updates key k step bs bs')
    (hk : ¬ bs.any (fun b => key b = k) = true) : bs' = bs := by
  unfold Updates at hbs
  induction hbs with
  | nil => rfl
  | cons hb _ ih =>
      rw [List.any_cons, Bool.or_eq_true, not_or] at hk
      rw [if_neg (by simpa using hk.1)] at hb
      rw [hb, ih hk.2]

theorem Tracks.put_known {step : β → β → Prop} (ht : Tracks R h bs)
    (hR : ∀ e b, R e b → key b = e.1) (hk : k ∈ keys h)
    (hstep : ∀ items b b', R (k, items) b → step b b' → R (k, items ++ [a]) b')
    (hbs : Updates key k step bs bs') : Tracks R (h ++ [.put k a]) bs' := by
  unfold Tracks at ht ⊢
  unfold Updates at hbs
  rw [ledger_put_known hk]
  -- The entries and the elements are followed side by side, the latter to both lists.
  generalize ledger h = es at ht ⊢
  induction ht generalizing bs' with
  | nil =>
      cases hbs
      exact .nil
  | @cons e b es bs hb _ ih =>
      cases hbs with
      | @cons _ b' _ bs' hb' hbs =>
          refine .cons ?_ (ih hbs)
          obtain ⟨j, items⟩ := e
          have hj : key b = j := hR _ _ hb
          dsimp only
          by_cases hjk : j = k
          · subst hjk
            rw [if_pos hj] at hb'
            rw [if_pos rfl]
            exact hstep items b b' hb hb'
          · rw [if_neg (hj ▸ hjk)] at hb'
            rw [if_neg hjk, hb']
            exact hb

theorem Tracks.put_new {b : β} (ht : Tracks R h bs) (hk : k ∉ keys h) (hb : R (k, [a]) b) :
    Tracks R (h ++ [.put k a]) (bs ++ [b]) := by
  unfold Tracks at ht ⊢
  rw [ledger_put_new hk]
  exact List.rel_append ht (.cons hb .nil)

/-- Putting something under a key is a step of its elements, or one more element if there are
none. -/
theorem Tracks.put {step : β → β → Prop} {found : Bool} {cs : List β} (ht : Tracks R h bs)
    (hR : ∀ e b, R e b → key b = e.1)
    (hstep : ∀ items b b', R (k, items) b → step b b' → R (k, items ++ [a]) b')
    (hfound : found = bs.any fun b => key b = k) (hbs : Updates key k step bs bs')
    (hcs : if found then cs = bs' else ∃ b, R (k, [a]) b ∧ cs = bs' ++ [b]) :
    Tracks R (h ++ [.put k a]) cs := by
  subst hfound
  split at hcs
  · next hknown =>
      rw [hcs]
      exact ht.put_known hR ((ht.any_iff hR).mp hknown) hstep hbs
  · next hnew =>
      obtain ⟨b, hb, rfl⟩ := hcs
      rw [hbs.eq_self hnew]
      exact ht.put_new (fun hknown => hnew ((ht.any_iff hR).mpr hknown)) hb

theorem Tracks.remove (ht : Tracks R h bs) (hR : ∀ e b, R e b → key b = e.1) :
    Tracks R (h ++ [.remove k]) (bs.filter fun b => key b ≠ k) := by
  unfold Tracks at ht ⊢
  rw [ledger_remove]
  refine List.rel_filter (fun e b heb => ?_) ht
  dsimp only
  rw [hR e b heb]

end Tracks

end Change

end HttpTemplates
