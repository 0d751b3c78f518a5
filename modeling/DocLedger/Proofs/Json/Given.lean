import DocLedger.Proofs.Json.Front
import DocLedger.Proofs.Number.Digits

/-!
# What a text of JSON gives

Whatever the text, a reader gives nothing but null, truth values, doubles, texts,
integers within the limit on digits, and lists and mappings of these.
-/

namespace DocLedger.Json

/-- The values that a text of JSON can give. -/
inductive Given : Value → Prop
  | null : Given .null
  | bool (b : Bool) : Given (.bool b)
  | int {n : Int} (hshort : Number.tooLong n = false) : Given (.int n)
  | float (x : Float) : Given (.float x)
  | text (s : String) : Given (.text s)
  | list {items : List Value} (hitems : ∀ v ∈ items, Given v) : Given (.list items)
  | mapping {entries : List (Value × Value)} (hvalues : ∀ e ∈ entries, Given e.2) :
      Given (.mapping entries)

theorem mem_insertEntry {key v : Value} {entries : List (Value × Value)} {e : Value × Value}
    (h : e ∈ Value.insertEntry key v entries) : e.2 = v ∨ e ∈ entries := by
  induction entries with
  | nil =>
      obtain rfl := List.mem_singleton.mp h
      exact .inl rfl
  | cons first rest ih =>
      obtain ⟨k, w⟩ := first
      rw [Value.insertEntry] at h
      split at h
      · rcases List.mem_cons.mp h with rfl | hrest
        · exact .inl rfl
        · exact .inr (List.mem_cons_of_mem _ hrest)
      · rcases List.mem_cons.mp h with rfl | hrest
        · exact .inr List.mem_cons_self
        · exact (ih hrest).imp_right (List.mem_cons_of_mem _)

/-- The values of an object are those of its members. -/
theorem given_ofMembers {members : List (List Char × Value)} (h : ∀ m ∈ members, Given m.2) :
    Given (ofMembers members) := by
  -- setting the members one after another goes on from the entries set so far
  have hfold (done : List (Value × Value)) (hdone : ∀ e ∈ done, Given e.2) :
      ∀ e ∈ (members.map fun m => (Value.text (String.ofList m.1), m.2)).foldl
        (fun done e => Value.insertEntry e.1 e.2 done) done, Given e.2 := by
    induction members generalizing done with
    | nil => exact hdone
    | cons m rest ih =>
        rw [List.map_cons, List.foldl_cons]
        refine ih (fun m hm => h m (List.mem_cons_of_mem _ hm)) _ ?_
        intro e he
        rcases mem_insertEntry he with heq | hmem
        · rw [heq]
          exact h m List.mem_cons_self
        · exact hdone e hmem
  exact .mapping (hfold [] (List.forall_mem_nil _))

theorem given_readScalar {cs rest : List Char} {v : Value}
    (h : readScalar cs = .ok (v, rest)) : Given v := by
  unfold readScalar at h
  split at h
  · next found hword =>
    cases h
    obtain ⟨word, hmem, -⟩ := readWord?_eq_some hword
    simp only [words, List.mem_cons, List.not_mem_nil, or_false, Prod.mk.injEq] at hmem
    rcases hmem with ⟨-, rfl⟩ | ⟨-, rfl⟩ | ⟨-, rfl⟩ | ⟨-, rfl⟩ | ⟨-, rfl⟩ | ⟨-, rfl⟩
    · exact .null
    · exact .bool true
    · exact .bool false
    · exact .float _
    · exact .float _
    · exact .float _
  · cases hnumber : readUnsigned (spanMinus cs).1 (spanMinus cs).2 with
    | none => simp [hnumber] at h
    | some result =>
        rw [hnumber, Option.getD_some] at h
        rw [h] at hnumber
        obtain ⟨whole, afterWhole, hwhole, hparts, -⟩ := readUnsigned_ok hnumber
        unfold numberOfParts at hparts
        split at hparts
        · split at hparts
          · cases hparts
          · next hlength =>
            cases hparts
            exact .int (Number.tooLong_of_digits (readWhole?_eq_append hwhole).2
              (Nat.not_lt.mp hlength) _)
        · cases hparts
          exact .float _

/-- The three readers with some fuel give nothing else. -/
theorem readers_given (fuel : Nat) :
    (∀ cs v rest, readValue fuel cs = .ok (v, rest) → Given v) ∧
      (∀ cs items rest, readItems fuel cs = .ok (items, rest) → ∀ v ∈ items, Given v) ∧
      (∀ cs members rest, readMembers fuel cs = .ok (members, rest) →
        ∀ m ∈ members, Given m.2) := by
  induction fuel with
  | zero => simp [readValue, readItems, readMembers]
  | succ fuel ih =>
      obtain ⟨ihValue, ihItems, ihMembers⟩ := ih
      refine ⟨?_, ?_, ?_⟩
      · intro cs v rest h
        cases readValue_succ_eq_ok_iff.mp h with
        | text body => exact .text _
        | emptyList close => exact .list (List.forall_mem_nil _)
        | list opened body => exact .list (ihItems _ _ _ body)
        | emptyObject close => exact given_ofMembers (List.forall_mem_nil _)
        | object opened body => exact given_ofMembers (ihMembers _ _ _ body)
        | scalar plain body => exact given_readScalar body
      · intro cs items rest h
        cases readItems_succ_eq_ok_iff.mp h with
        | last value close => exact List.forall_mem_singleton.mpr (ihValue _ _ _ value)
        | more value comma others =>
            exact List.forall_mem_cons.mpr ⟨ihValue _ _ _ value, ihItems _ _ _ others⟩
      · intro cs members rest h
        cases readMembers_succ_eq_ok_iff.mp h with
        | last name mark value close =>
            exact List.forall_mem_singleton.mpr (ihValue _ _ _ value)
        | more name mark value comma others =>
            exact List.forall_mem_cons.mpr ⟨ihValue _ _ _ value, ihMembers _ _ _ others⟩

/-- What is read from a text of JSON is one of its values. -/
theorem given_readDocument {cs : List Char} {v : Value} (h : readDocument cs = .ok v) :
    Given v := by
  unfold readDocument at h
  split at h
  · cases h
  · split at h
    · cases h
    · next value rest hfront =>
      split at h
      · cases h
        exact (readers_given _).1 _ _ _ hfront
      · cases h

end DocLedger.Json
