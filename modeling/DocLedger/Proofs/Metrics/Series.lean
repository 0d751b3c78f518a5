import DocLedger.Metrics.Series
import Mathlib.Data.List.Induction
import Mathlib.Data.List.Nodup

/-!
# Series by their uses

The texts of the declared labels decide which series a call is about.  A table keeps the
series in the order in which they were first used, and the state of each is the fold of its
own uses: those of other series leave it alone.
-/

namespace DocLedger.Metrics

/-! ## The series of a call -/

namespace Description

/-- The texts of the declared labels among those that a call gives.  A label that the call
leaves out has the empty text. -/
def series (d : Description) (given : Given) : Key :=
  d.labels.map fun label => (given.lookup label).elim "" Value.plain

/-- Whether the declared labels that a call gives can be written. -/
def spells (d : Description) (given : Given) : Bool :=
  d.labels.all fun label => (given.lookup label).all fun v => !v.overlong

end Description

theorem find?_eq_lookup {α : Type} (label : String) (given : List (String × α)) :
    (given.find? fun entry => entry.1 == label) = (given.lookup label).map fun v => (label, v) := by
  induction given with
  | nil => rfl
  | cons entry rest ih =>
      obtain ⟨name, v⟩ := entry
      by_cases hname : name = label
      · subst hname
        simp
      · have hother : (label == name) = false := by simpa using Ne.symm hname
        rw [List.find?_cons_of_neg (by simpa using hname), ih, List.lookup_cons, hother]

/-- A check that gives the same fault wherever it fails gives it for a list just in case an
item fails. -/
theorem mapM_eq_ite {ε α β : Type} {check : α → Except ε β} {passes : α → Bool} {result : α → β}
    {fault : ε} (h : ∀ a, check a = if passes a then .ok (result a) else .error fault)
    (items : List α) :
    items.mapM check = if items.all passes then .ok (items.map result) else .error fault := by
  induction items with
  | nil => rfl
  | cons a rest ih =>
      rw [List.mapM_cons, h, ih, List.all_cons, List.map_cons]
      cases passes a with
      | false => rfl
      | true =>
          cases rest.all passes with
          | false => rfl
          | true => rfl

/-- A call is about the series of its labels, unless one of them cannot be written. -/
theorem Description.key_eq (d : Description) (given : Given) :
    d.key given = if d.spells given then .ok (d.series given) else .error .tooManyDigits := by
  apply mapM_eq_ite
  intro label
  rw [find?_eq_lookup]
  cases given.lookup label with
  | none => rfl
  | some v =>
      show v.spelled = if !v.overlong then .ok v.plain else .error .tooManyDigits
      rw [Value.spelled]
      cases v.overlong with
      | false => rfl
      | true => rfl

/-! ## Labels with their values -/

theorem setLabel_of_fresh {label : String} (value : String) {entries : List (String × String)}
    (h : label ∉ entries.map Prod.fst) :
    setLabel label value entries = entries ++ [(label, value)] := by
  induction entries with
  | nil => rfl
  | cons entry rest ih =>
      obtain ⟨l, v⟩ := entry
      rw [List.map_cons, List.mem_cons, not_or] at h
      have hother : (l == label) = false := by simpa using Ne.symm h.1
      rw [setLabel, hother, ih h.2]
      rfl

theorem foldl_setLabel_of_nodup {done later : List (String × String)}
    (h : ((done ++ later).map Prod.fst).Nodup) :
    later.foldl (fun done (label, value) => setLabel label value done) done = done ++ later := by
  induction later generalizing done with
  | nil => exact (List.append_nil done).symm
  | cons entry later ih =>
      obtain ⟨label, value⟩ := entry
      have hfresh : label ∉ done.map Prod.fst := by
        intro hmem
        rw [List.map_append, List.map_cons] at h
        exact (List.nodup_append.mp h).2.2 label hmem label List.mem_cons_self rfl
      have hthen := @ih (done ++ [(label, value)]) (by simpa using h)
      simp only [List.foldl_cons, setLabel_of_fresh value hfresh]
      rw [hthen, List.append_assoc, List.singleton_append]

theorem map_fst_zip_sublist (labels : List String) (key : Key) :
    ((labels.zip key).map Prod.fst).Sublist labels := by
  induction labels generalizing key with
  | nil => exact List.Sublist.refl []
  | cons label rest ih =>
      cases key with
      | nil => exact List.nil_sublist _
      | cons value key =>
          apply List.Sublist.cons_cons
          exact ih key

/-- Labels that are declared once stand in a sample with their values, in their order. -/
theorem Description.labelled_eq_zip {d : Description} (h : d.labels.Nodup) (key : Key) :
    d.labelled key = d.labels.zip key := by
  apply @foldl_setLabel_of_nodup []
  exact h.sublist (map_fst_zip_sublist d.labels key)

/-! ## Tables -/

namespace Table

variable {α β : Type}

theorem get?_set_self (t : Table α) (key : Key) (state : α) :
    (t.set key state).get? key = some state := by
  induction t with
  | nil => simp [set, get?]
  | cons entry rest ih =>
      obtain ⟨k, s⟩ := entry
      rw [set]
      split
      · next hkey => simp [get?, hkey]
      · next hkey =>
          rw [get?, List.find?_cons_of_neg (by simpa using hkey)]
          exact ih

theorem get?_set_of_ne (t : Table α) {key other : Key} (h : other ≠ key)
    (state : α) : (t.set key state).get? other = t.get? other := by
  induction t with
  | nil => simp [set, get?, h.symm]
  | cons entry rest ih =>
      obtain ⟨k, s⟩ := entry
      rw [set]
      split
      · next hkey =>
          obtain rfl : k = key := by simpa using hkey
          rw [get?, get?, List.find?_cons_of_neg (by simpa using h.symm),
            List.find?_cons_of_neg (by simpa using h.symm)]
      · next hkey =>
          by_cases hother : k = other
          · simp [get?, hother]
          · rw [get?, get?, List.find?_cons_of_neg (by simpa using hother),
              List.find?_cons_of_neg (by simpa using hother)]
            exact ih

def ofKeys (keys : List Key) (state : Key → α) : Table α := keys.map fun key => (key, state key)

theorem get?_ofKeys (keys : List Key) (state : Key → α) (key : Key) :
    (ofKeys keys state).get? key = if key ∈ keys then some (state key) else none := by
  induction keys with
  | nil => rfl
  | cons k rest ih =>
      by_cases hk : k = key
      · simp [ofKeys, get?, hk]
      · have hmem : key ∈ k :: rest ↔ key ∈ rest := by simp [Ne.symm hk]
        rw [ofKeys, List.map_cons, get?, List.find?_cons_of_neg (by simpa using hk)]
        simp only [hmem]
        exact ih

theorem set_ofKeys {keys : List Key} (hkeys : keys.Nodup) (state : Key → α) (key : Key) (s : α) :
    (ofKeys keys state).set key s =
      ofKeys (keys ++ if key ∈ keys then [] else [key]) fun k => if k = key then s else state k := by
  induction keys with
  | nil => simp [ofKeys, set]
  | cons k rest ih =>
      rw [List.nodup_cons] at hkeys
      by_cases hk : k = key
      · subst hk
        have hrest : rest.map (fun j => (j, if j = k then s else state j)) =
            rest.map fun j => (j, state j) := by
          apply List.map_congr_left
          intro j hj
          have hne : j ≠ k := by
            rintro rfl
            exact hkeys.1 hj
          rw [if_neg hne]
        simp [ofKeys, set, hrest]
      · have hmem : key ∈ k :: rest ↔ key ∈ rest := by simp [Ne.symm hk]
        have hset := ih hkeys.2
        simp only [ofKeys] at hset
        simp only [ofKeys, List.map_cons, set, hmem, List.cons_append, hset, if_neg hk]
        rw [if_neg (by simpa using hk)]

/-! ### Uses of series -/

section Uses

variable (initial : α) (act : β → α → α) (keyOf : β → Key)

/-- Use a series: act on its state, or on the initial one if it has not been used. -/
def use (t : Table α) (b : β) : Table α :=
  t.set (keyOf b) (act b ((t.get? (keyOf b)).getD initial))

/-- The state of a series after some uses, of which only its own matter. -/
def stateAfter (uses : List β) (key : Key) : α :=
  (uses.filter fun b => keyOf b == key).foldl (fun state b => act b state) initial

theorem stateAfter_append (uses : List β) (b : β) (key : Key) :
    stateAfter initial act keyOf (uses ++ [b]) key =
      if key = keyOf b then act b (stateAfter initial act keyOf uses key)
      else stateAfter initial act keyOf uses key := by
  simp only [stateAfter, List.filter_append, List.foldl_append]
  split
  · next hkey => simp [hkey]
  · next hkey => simp [Ne.symm hkey]

theorem stateAfter_of_notMem {uses : List β} {key : Key} (h : key ∉ uses.map keyOf) :
    stateAfter initial act keyOf uses key = initial := by
  have hnone : (uses.filter fun b => keyOf b == key) = [] := by
    rw [List.filter_eq_nil_iff]
    intro b hb hkey
    exact h (List.mem_map.mpr ⟨b, hb, by simpa using hkey⟩)
  rw [stateAfter, hnone]
  rfl

end Uses

end Table

/-- The keys without repeats, each at its first place. -/
theorem eraseDups_append_singleton (keys : List Key) (key : Key) :
    (keys ++ [key]).eraseDups = keys.eraseDups ++ if key ∈ keys then [] else [key] := by
  rw [List.eraseDups_append]
  by_cases hkey : key ∈ keys
  · simp [List.removeAll, hkey]
  · simp [List.removeAll, hkey, List.eraseDups_cons]

theorem nodup_eraseDups (keys : List Key) : keys.eraseDups.Nodup := by
  induction keys using List.reverseRecOn with
  | nil => exact List.nodup_nil
  | append_singleton keys key ih =>
      rw [eraseDups_append_singleton]
      split
      · rw [List.append_nil]
        exact ih
      · next hkey =>
          apply List.nodup_append.mpr
          refine ⟨ih, List.nodup_singleton key, ?_⟩
          rintro k hk _ hkey' rfl
          rw [List.mem_singleton.mp hkey', List.mem_eraseDups] at hk
          exact hkey hk

/-- A table that has been used holds the series in the order of their first use, each with
the fold of its own uses. -/
theorem Table.foldl_use {α β : Type} (initial : α) (act : β → α → α) (keyOf : β → Key)
    (uses : List β) :
    uses.foldl (Table.use initial act keyOf) [] =
      Table.ofKeys (uses.map keyOf).eraseDups (Table.stateAfter initial act keyOf uses) := by
  induction uses using List.reverseRecOn with
  | nil => rfl
  | append_singleton uses b ih =>
      have hstate : ((Table.ofKeys (uses.map keyOf).eraseDups
          (Table.stateAfter initial act keyOf uses)).get? (keyOf b)).getD initial =
          Table.stateAfter initial act keyOf uses (keyOf b) := by
        rw [Table.get?_ofKeys]
        split
        · rfl
        · next hkey =>
            rw [List.mem_eraseDups] at hkey
            exact (Table.stateAfter_of_notMem initial act keyOf hkey).symm
      have hsame : (fun k => if k = keyOf b then act b (Table.stateAfter initial act keyOf uses (keyOf b))
          else Table.stateAfter initial act keyOf uses k) =
          Table.stateAfter initial act keyOf (uses ++ [b]) := by
        funext k
        rw [Table.stateAfter_append]
        split
        · next hk => rw [hk]
        · rfl
      rw [List.foldl_append, ih, List.foldl_cons, List.foldl_nil, Table.use, hstate,
        Table.set_ofKeys (nodup_eraseDups _), hsame, List.map_append, List.map_singleton,
        eraseDups_append_singleton]
      simp only [List.mem_eraseDups]

end DocLedger.Metrics
