import DocLedger.Command.Vector
import Mathlib.Data.List.Induction

/-!
# Vectors of words

A vector that consists of words can be shown, handed to a child and labelled.
Only a value that is no text could stand in the way.
-/

namespace DocLedger.Command

theorem texts_words (ws : List String) : texts (words ws) = .ok ws := by
  induction ws with
  | nil => rfl
  | cons w ws ih =>
      rw [texts] at ih ⊢
      simp only [words, List.map_cons, List.mapM_cons] at ih ⊢
      rw [ih]
      rfl

theorem shellLine_words (ws : List String) : shellLine (words ws) = .ok (Text.ShellWords.line ws) := by
  have hwords : (words ws).mapM shellWord = .ok (ws.map Text.ShellWords.quote) := by
    induction ws with
    | nil => rfl
    | cons w ws ih =>
        simp only [words, List.map_cons, List.mapM_cons] at ih ⊢
        rw [ih]
        rfl
  rw [shellLine, hwords]
  rfl

theorem isFlag_text (w : String) : isFlag (.text w) = .ok (w.startsWith "-") := rfl

theorem firstWord?_words (ws : List String) :
    firstWord? (words ws) = .ok none ∨
    ∃ word more, firstWord? (words ws) = .ok (some (word, words more)) := by
  -- a word that names the repository is passed over with the word behind it
  induction ws using List.twoStepInduction with
  | nil => exact .inl rfl
  | singleton w =>
      simp only [words, List.map_cons, List.map_nil, firstWord?, isFlag_text, bind, Except.bind]
      split
      · exact .inl rfl
      · split
        · exact .inl rfl
        · exact .inr ⟨w, [], rfl⟩
  | cons_cons w v ws ih ih' =>
      simp only [words, List.map_cons, firstWord?, isFlag_text, bind, Except.bind] at ih ih' ⊢
      split
      · exact ih
      · split
        · exact ih' v
        · exact .inr ⟨w, v :: ws, rfl⟩

theorem exists_label_words (ws : List String) : ∃ l, label (words ws) = .ok l := by
  obtain ⟨found, hfound⟩ : ∃ found, labelWords (words ws) = .ok found := by
    rcases firstWord?_words ws with hnone | ⟨word, more, hsome⟩
    · exact ⟨[], by rw [labelWords, hnone]; rfl⟩
    · rw [labelWords, hsome]
      simp only [bind, Except.bind]
      rcases firstWord?_words more with hnone | ⟨second, others, hsecond⟩
      · rw [hnone]
        split <;> exact ⟨_, rfl⟩
      · rw [hsecond]
        split <;> exact ⟨_, rfl⟩
  exact ⟨_, by rw [label, hfound]; rfl⟩

/-! ## Vectors that consist of words -/

/-- A vector all of whose arguments are texts. -/
def IsWords (args : Vector) : Prop := ∃ ws, args = words ws

theorem isWords_words (ws : List String) : IsWords (words ws) := ⟨ws, rfl⟩

theorem IsWords.append {front back : Vector} (hfront : IsWords front) (hback : IsWords back) :
    IsWords (front ++ back) := by
  obtain ⟨ws, rfl⟩ := hfront
  obtain ⟨vs, rfl⟩ := hback
  exact ⟨ws ++ vs, List.map_append.symm⟩

theorem isWords_flagIf (given : Bool) (flag : String) : IsWords (flagIf given flag) := by
  cases given with
  | true => exact isWords_words [flag]
  | false => exact isWords_words []

theorem isWords_base (repo : String) (json write autoSync : Bool) :
    IsWords (base (.text repo) json write autoSync) :=
  ((isWords_words [repoFlag, repo]).append (isWords_flagIf _ _)).append (isWords_flagIf _ _)

end DocLedger.Command
