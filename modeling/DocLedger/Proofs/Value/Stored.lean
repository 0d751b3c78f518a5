import DocLedger.Value.Basic

/-!
# What a document keeps of a value

A document holds lists and objects with text keys.  A value made of null, truth
values, integers within the limit, texts, lists, tuples and mappings can be
stored: its tuples become lists and its keys become texts.  Keys of one mapping
have to stay apart as texts, for the document could not tell them apart
otherwise.
-/

namespace DocLedger.Value

/-- The text under which a key stands in a document.  Values that are no keys of
documents have none, and the empty text stands for it. -/
def keyName : Value → String
  | text s => s
  | null => "null"
  | bool b => if b then "true" else "false"
  | int n => String.ofList (Number.intDigits n)
  | _ => ""

/-- The keys that documents can have. -/
inductive IsKey : Value → Prop
  | text (s : String) : IsKey (text s)
  | null : IsKey null
  | bool (b : Bool) : IsKey (bool b)
  | int {n : Int} (hshort : Number.tooLong n = false) : IsKey (int n)

/-- The values that documents can hold, with tuples as lists and keys as texts. -/
inductive Storable : Value → Prop
  | null : Storable null
  | bool (b : Bool) : Storable (bool b)
  | int {n : Int} (hshort : Number.tooLong n = false) : Storable (int n)
  | text (s : String) : Storable (text s)
  | list {items : List Value} (hitems : ∀ v ∈ items, Storable v) : Storable (list items)
  | tuple {items : List Value} (hitems : ∀ v ∈ items, Storable v) : Storable (tuple items)
  | mapping {entries : List (Value × Value)} (hkeys : ∀ e ∈ entries, IsKey e.1)
      (hvalues : ∀ e ∈ entries, Storable e.2)
      (hdistinct : (entries.map fun e => keyName e.1).Nodup) : Storable (mapping entries)

mutual

/-- What a document keeps of a value: each tuple is a list and each key a text. -/
def stored : Value → Value
  | list items => list (storedItems items)
  | tuple items => list (storedItems items)
  | mapping entries => mapping (storedEntries entries)
  | v => v

def storedItems : List Value → List Value
  | [] => []
  | v :: rest => stored v :: storedItems rest

/-- What a document keeps of some entries, in their order. -/
def storedEntries : List (Value × Value) → List (Value × Value)
  | [] => []
  | (k, v) :: rest => (text (keyName k), stored v) :: storedEntries rest

end

/-! ## Keys that stay apart -/

theorem insertEntry_of_fresh {key : String} (v : Value) {members : List (String × Value)}
    (hfresh : key ∉ members.map Prod.fst) :
    insertEntry (text key) v (members.map fun m => (text m.1, m.2)) =
      (members ++ [(key, v)]).map fun m => (text m.1, m.2) := by
  induction members with
  | nil => rfl
  | cons m members ih =>
      simp only [List.map_cons, List.mem_cons, not_or] at hfresh
      have hother : same (text m.1) (text key) = false := by
        simpa [same] using Ne.symm hfresh.1
      simp only [List.map_cons, insertEntry, hother, Bool.false_eq_true, if_false, ih hfresh.2,
        List.cons_append]

theorem foldl_insertEntry_of_nodup {done later : List (String × Value)}
    (hdistinct : ((done ++ later).map Prod.fst).Nodup) :
    (later.map fun m => (text m.1, m.2)).foldl (fun done (k, v) => insertEntry k v done)
        (done.map fun m => (text m.1, m.2)) = (done ++ later).map fun m => (text m.1, m.2) := by
  induction later generalizing done with
  | nil => simp
  | cons m later ih =>
      have hfresh : m.1 ∉ done.map Prod.fst := by
        intro hmem
        rw [List.map_append, List.map_cons] at hdistinct
        exact (List.nodup_append.mp hdistinct).2.2 m.1 hmem m.1 List.mem_cons_self rfl
      have hthen := @ih (done ++ [m]) (by simpa using hdistinct)
      simp only [List.map_cons, List.foldl_cons]
      rw [insertEntry_of_fresh m.2 hfresh, hthen, List.append_assoc, List.singleton_append]

/-- Members with distinct keys are an object's entries as they stand. -/
theorem ofEntries_of_nodup {members : List (String × Value)}
    (hdistinct : (members.map Prod.fst).Nodup) :
    ofEntries (members.map fun m => (text m.1, m.2)) =
      mapping (members.map fun m => (text m.1, m.2)) :=
  congrArg mapping (@foldl_insertEntry_of_nodup [] members hdistinct)

/-- Numbered texts are read as they stand by a reader that accepts each of them. -/
theorem mapM_texts {ε : Type} {read : Value × Nat → Except ε String}
    (hread : ∀ name index, read (text name, index) = .ok name) (names : List String)
    (start : Nat) : ((names.map text).zipIdx start).mapM read = .ok names := by
  induction names generalizing start with
  | nil => rfl
  | cons name rest ih =>
      rw [List.map_cons, List.zipIdx_cons, List.mapM_cons, ih (start + 1), hread]
      rfl

end DocLedger.Value
