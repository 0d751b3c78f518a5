import DocLedger.Console.Shortcode
import Mathlib.Data.List.TakeWhile

/-!
# Shortcodes in a text

A text is read from its front: a shortcode is used up with both of its colons, and any
other character is passed over.  No pictogram holds a colon.  So a text either holds no
shortcode that names a pictogram and stays as it is, or it loses colons.
-/

namespace DocLedger.Console

theorem notMem_of_mem_splitOn {α : Type} [BEq α] [LawfulBEq α] {mark : α} {xs piece : List α}
    (h : piece ∈ xs.splitOn mark) : mark ∉ piece := by
  induction xs generalizing piece with
  | nil =>
      rw [List.splitOn_nil, List.mem_singleton] at h
      rw [h]
      exact List.not_mem_nil
  | cons x xs ih =>
      rw [List.splitOn_cons_eq_if_modifyHead] at h
      by_cases hx : x = mark
      · rw [if_pos (by simpa using hx), List.mem_cons] at h
        rcases h with rfl | h
        · exact List.not_mem_nil
        · exact ih h
      · rw [if_neg (by simpa using hx)] at h
        obtain ⟨first, rest, hsplit⟩ := List.exists_cons_of_ne_nil (List.splitOn_ne_nil mark xs)
        rw [hsplit, List.modifyHead_cons, List.mem_cons] at h
        rcases h with rfl | h
        · rw [List.mem_cons, not_or]
          exact ⟨Ne.symm hx, ih (hsplit ▸ List.mem_cons_self)⟩
        · exact ih (hsplit ▸ List.mem_cons_of_mem _ h)

/-! ## Pictograms -/

theorem colon_notMem_of_entryOf? {word : String} {name cs : List Char}
    (h : entryOf? word = some (name, cs)) : ':' ∉ cs := by
  unfold entryOf? at h
  split at h
  · next first second hsplit =>
    cases h
    have hmem : cs ∈ word.toList.splitOn ':' := by
      rw [hsplit]
      simp
    exact notMem_of_mem_splitOn hmem
  · cases h

theorem colon_notMem_of_lookup {words : List String} {name cs : List Char}
    (h : (words.filterMap entryOf?).lookup name = some cs) : ':' ∉ cs := by
  obtain ⟨before, after, hentries, -⟩ := List.lookup_eq_some_iff.mp h
  have hmem : (name, cs) ∈ words.filterMap entryOf? := by
    rw [hentries]
    simp
  obtain ⟨word, -, hword⟩ := List.mem_filterMap.mp hmem
  exact colon_notMem_of_entryOf? hword

theorem colon_notMem_selector (name : List Char) : ':' ∉ (variantOf name).2 := by
  rw [variantOf]
  split
  · next ending selector hfind =>
    have hall : ∀ v ∈ variants, ':' ≠ v.2 := by decide
    rw [List.mem_singleton]
    exact hall _ (List.mem_of_find?_eq_some hfind)
  · exact List.not_mem_nil

theorem colon_notMem_shown {name cs : List Char} (h : shown? name = some cs) : ':' ∉ cs := by
  rw [shown?, Option.map_eq_some_iff] at h
  obtain ⟨picture, hpicture, rfl⟩ := h
  rw [List.mem_append, not_or]
  exact ⟨colon_notMem_of_lookup hpicture, colon_notMem_selector name⟩

/-! ## Reading shortcodes -/

/-- The name in a shortcode: it holds neither colons nor blanks. -/
def IsCodeName (name : List Char) : Prop := ∀ c ∈ name, c ≠ ':' ∧ Text.isBlank c = false

def shortcode (name : List Char) : List Char := ':' :: (name ++ [':'])

/-- A text begins with a shortcode. -/
def StartsCode (cs : List Char) : Prop := ∃ name rest, IsCodeName name ∧ cs = shortcode name ++ rest

theorem codeName?_eq_some_iff {cs name : List Char} :
    codeName? cs = some name ↔ IsCodeName name ∧ ∃ rest, cs = name ++ ':' :: rest := by
  have hcolon (c : Char) : (c != ':') = true ↔ c ≠ ':' := bne_iff_ne
  constructor
  · intro h
    rw [codeName?] at h
    split at h
    · next hboth =>
      obtain ⟨hlength, hblank⟩ := Bool.and_eq_true_iff.mp hboth
      cases h
      refine ⟨fun c hc => ⟨?_, ?_⟩, ?_⟩
      · have hother := List.mem_takeWhile_imp hc
        exact (hcolon c).mp hother
      · simp only [Bool.not_eq_true', List.any_eq_false] at hblank
        simpa using hblank c hc
      · have hsplit := List.takeWhile_append_dropWhile (p := (· != ':')) (l := cs)
        cases hdrop : cs.dropWhile (· != ':') with
        | nil =>
            rw [hdrop, List.append_nil] at hsplit
            rw [hsplit] at hlength
            simp at hlength
        | cons c rest =>
            have hfirst : c = ':' := by
              have hnot := List.head_dropWhile_not (p := (· != ':')) (l := cs) (by simp [hdrop])
              simpa [hdrop] using hnot
            exact ⟨rest, by rw [hfirst] at hdrop; rw [← hdrop, hsplit]⟩
    · cases h
  · rintro ⟨hname, rest, rfl⟩
    have htake : (name ++ ':' :: rest).takeWhile (· != ':') = name := by
      rw [List.takeWhile_append_of_pos fun c hc => (hcolon c).mpr (hname c hc).1]
      simp
    have hblank : name.any Text.isBlank = false := by
      rw [List.any_eq_false]
      intro c hc
      simp [(hname c hc).2]
    rw [codeName?, htake, hblank]
    simp

theorem replaceCodes_drop (used : Nat) (cs : List Char) :
    replaceCodes used cs = replaceCodes 0 (cs.drop used) := by
  induction cs generalizing used with
  | nil => cases used <;> rfl
  | cons c cs ih =>
      cases used with
      | zero => rfl
      | succ used => exact ih used

/-- A shortcode gives way to the pictogram of its name, or stays. -/
theorem replaceCodes_shortcode {name : List Char} (hname : IsCodeName name) (rest : List Char) :
    replaceCodes 0 (shortcode name ++ rest) =
      (shown? name).getD (shortcode name) ++ replaceCodes 0 rest := by
  have hfound : codeName? (name ++ ':' :: rest) = some name :=
    codeName?_eq_some_iff.mpr ⟨hname, rest, rfl⟩
  have hcons : shortcode name ++ rest = ':' :: (name ++ ':' :: rest) := by simp [shortcode]
  have hdrop : (name ++ ':' :: rest).drop (name.length + 1) = rest := by
    rw [← List.drop_drop, List.drop_left]
    rfl
  rw [hcons, replaceCodes, if_pos (by decide), hfound]
  simp only [replaceCodes_drop (name.length + 1), hdrop]
  rfl

theorem replaceCodes_of_not_startsCode {c : Char} {cs : List Char}
    (h : ¬ StartsCode (c :: cs)) : replaceCodes 0 (c :: cs) = c :: replaceCodes 0 cs := by
  rw [replaceCodes]
  by_cases hc : c = ':'
  · rw [if_pos (by simpa using hc)]
    cases hfound : codeName? cs with
    | none => rfl
    | some name =>
        obtain ⟨hname, rest, rfl⟩ := codeName?_eq_some_iff.mp hfound
        exact absurd ⟨name, rest, hname, by simp [hc, shortcode]⟩ h
  · rw [if_neg (by simpa using hc)]

/-! ## Texts that stay as they are -/

/-- A text, read from its front, that holds no shortcode of a pictogram. -/
inductive PictogramFree : List Char → Prop
  | nil : PictogramFree []
  | char {c : Char} {cs : List Char} (hnone : ¬ StartsCode (c :: cs))
      (hrest : PictogramFree cs) : PictogramFree (c :: cs)
  | code {name rest : List Char} (hname : IsCodeName name) (hunknown : shown? name = none)
      (hrest : PictogramFree rest) : PictogramFree (shortcode name ++ rest)

theorem PictogramFree.withPictograms_eq {cs : List Char} (h : PictogramFree cs) :
    withPictograms cs = cs := by
  rw [withPictograms]
  induction h with
  | nil => rfl
  | char hnone _ ih => rw [replaceCodes_of_not_startsCode hnone, ih]
  | code hname hunknown _ ih => rw [replaceCodes_shortcode hname, hunknown, Option.getD_none, ih]

theorem count_shortcode {name : List Char} (hname : IsCodeName name) :
    (shortcode name).count ':' = 2 := by
  have hnone : name.count ':' = 0 := List.count_eq_zero.mpr fun hmem => (hname ':' hmem).1 rfl
  simp [shortcode, hnone]

/-- A text in which some shortcode names a pictogram loses colons. -/
theorem pictogramFree_or_count_lt (cs : List Char) :
    PictogramFree cs ∨ (withPictograms cs).count ':' < cs.count ':' := by
  induction hlength : cs.length using Nat.strongRecOn generalizing cs with
  | _ n ih =>
    cases cs with
    | nil => exact .inl .nil
    | cons c cs =>
        by_cases hcode : StartsCode (c :: cs)
        · obtain ⟨name, rest, hname, hcs⟩ := hcode
          have hshorter : rest.length < n := by
            rw [← hlength, hcs, shortcode]
            simp
            omega
          rw [hcs, withPictograms, replaceCodes_shortcode hname, ← withPictograms,
            List.count_append, List.count_append, count_shortcode hname]
          cases hshown : shown? name with
          | none =>
              rcases ih _ hshorter rest rfl with hfree | hless
              · exact .inl (.code hname hshown hfree)
              · right
                rw [Option.getD_none, count_shortcode hname]
                omega
          | some picture =>
              have hnone : picture.count ':' = 0 :=
                List.count_eq_zero.mpr (colon_notMem_shown hshown)
              right
              rw [Option.getD_some, hnone]
              rcases ih _ hshorter rest rfl with hfree | hless
              · rw [hfree.withPictograms_eq]
                omega
              · omega
        · rw [withPictograms, replaceCodes_of_not_startsCode hcode, ← withPictograms]
          rcases ih cs.length (by rw [← hlength]; simp) cs rfl with hfree | hless
          · exact .inl (.char hcode hfree)
          · right
            rw [List.count_cons, List.count_cons]
            omega

theorem count_withPictograms_le (cs : List Char) :
    (withPictograms cs).count ':' ≤ cs.count ':' := by
  rcases pictogramFree_or_count_lt cs with hfree | hless
  · exact Nat.le_of_eq (by rw [hfree.withPictograms_eq])
  · exact Nat.le_of_lt hless

end DocLedger.Console
