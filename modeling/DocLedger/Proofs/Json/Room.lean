import DocLedger.Json.Printer
import DocLedger.Proofs.Value.Room

/-!
# Writing in limited room

A style that refuses what documents cannot hold writes in limited room what it writes
in any room, as long as the containers have room inside one another.  Otherwise it
either meets another fault first, the same as in any room, or finds no room.
-/

namespace DocLedger.Json

open Value (Obstructs)

/-- A style with any room for containers. -/
def Style.unlimited (style : Style) : Style := { style with room := none }

variable {style inner : Style}

/-! ## Styles inside containers -/

theorem Style.inside?_of_room (h : style.room = none) : style.inside? = some style := by
  obtain ⟨comma, colon, ascii, finite, others, room⟩ := style
  cases h
  rfl

theorem Style.inside?_eq_some (h : style.inside? = some inner) :
    style.room.inside? = some inner.room ∧ inner = { style with room := inner.room } := by
  obtain ⟨room, hroom, rfl⟩ := Option.map_eq_some_iff.mp h
  exact ⟨hroom, rfl⟩

theorem Style.inside?_eq_none (h : style.inside? = none) : style.room.inside? = none :=
  Option.map_eq_none_iff.mp h

theorem Style.unlimited_inside (h : style.inside? = some inner) :
    inner.unlimited = style.unlimited := by
  rw [(Style.inside?_eq_some h).2]
  rfl

theorem separated_unlimited (style : Style) (texts : List (List Char)) :
    separated style.unlimited texts = separated style texts := by
  fun_induction separated style texts with
  | case1 => rfl
  | case2 text => rfl
  | case3 text rest hrest ih => rw [separated, ih, Style.unlimited] <;> exact hrest

theorem container_eq_ok_iff {front back : Char}
    {parts : Style → Except PrintFault (List (List Char))} {cs : List Char} :
    container style front back parts = .ok cs ↔ ∃ inner texts, style.inside? = some inner ∧
      parts inner = .ok texts ∧ cs = front :: separated style texts ++ [back] := by
  unfold container
  constructor
  · intro h
    split at h
    · cases h
    · next inner hinside =>
        split at h
        · cases h
        · next texts htexts => exact ⟨inner, texts, hinside, htexts, (Except.ok.inj h).symm⟩
  · rintro ⟨inner, texts, hinside, htexts, rfl⟩
    rw [hinside]
    simp only [htexts]

/-- With any room, what is inside a container is written in the style of the container. -/
theorem container_eq_ok_iff_of_room (hroom : style.room = none) {front back : Char}
    {parts : Style → Except PrintFault (List (List Char))} {cs : List Char} :
    container style front back parts = .ok cs ↔
      ∃ texts, parts style = .ok texts ∧ cs = front :: separated style texts ++ [back] := by
  simp [container_eq_ok_iff, Style.inside?_of_room hroom]

/-! ## Results in limited room -/

/-- How a result in limited room compares with the one in any room. -/
inductive Confined {α : Type} (fits : Prop) (unlimited : Except PrintFault α) :
    Except PrintFault α → Prop
  | written {a : α} (hfits : fits) (hsame : unlimited = .ok a) : Confined fits unlimited (.ok a)
  | refused {fault : PrintFault} (hother : fault ≠ .tooDeep) (hsame : unlimited = .error fault) :
      Confined fits unlimited (.error fault)
  | noRoom (hdeep : ¬ fits) : Confined fits unlimited (.error .tooDeep)

/-- A result that is the same in any room. -/
theorem Confined.of_same {α : Type} {fits : Prop} {result : Except PrintFault α}
    (hother : result ≠ .error .tooDeep) (hfits : ∀ a, result = .ok a → fits) :
    Confined fits result result := by
  cases result with
  | ok a => exact .written (hfits a rfl) rfl
  | error fault => exact .refused (fun h => hother (congrArg Except.error h)) rfl

/-- What is found inside a container decides about the container. -/
theorem confined_container {n : Nat} {front back : Char}
    {parts : Style → Except PrintFault (List (List Char))}
    (h : ∀ inner, style.inside? = some inner →
      Confined (inner.room.Fits n) (parts style.unlimited) (parts inner)) :
    Confined (style.room.Fits (n + 1)) (container style.unlimited front back parts)
      (container style front back parts) := by
  have hunlimited : style.unlimited.inside? = some style.unlimited := Style.inside?_of_room rfl
  unfold container
  rw [hunlimited]
  simp only [separated_unlimited]
  cases hinside : style.inside? with
  | none => exact .noRoom (Room.not_fits_succ (Style.inside?_eq_none hinside))
  | some inner =>
      have hparts := h inner hinside
      rw [Room.fits_succ_iff (Style.inside?_eq_some hinside).1]
      dsimp only
      generalize parts inner = result at hparts ⊢
      cases hparts with
      | written hfits hsame => exact .written hfits (by rw [hsame])
      | refused hother hsame => exact .refused hother (by rw [hsame])
      | noRoom hdeep => exact .noRoom hdeep

/-! ## Values in limited room -/

theorem integer_ne_tooDeep (n : Int) : integer n ≠ .error .tooDeep := by
  rw [integer]
  split <;> nofun

theorem double_ne_tooDeep (style : Style) (x : Float) : double style x ≠ .error .tooDeep := by
  rw [double]
  split <;> nofun

theorem confined_keyText (style : Style) (k : Value) :
    Confined (style.room.Fits k.depth) (keyText style.unlimited k) (keyText style k) := by
  have hscalar : style.room.Fits 0 := Room.fits_zero style.room
  cases k with
  | null | bool | text => exact .written hscalar rfl
  | int n => exact .of_same (integer_ne_tooDeep n) fun _ _ => hscalar
  | float x => exact .of_same (double_ne_tooDeep style x) fun _ _ => hscalar
  | bytes | list | tuple | set | mapping | decimal | moment | record | loop =>
      exact .refused nofun rfl

theorem foreignValue_of_refused (h : style.others = .refused) (v : Value) :
    foreignValue style v = .error (.notSerializable v.typeName) := by
  rw [foreignValue.eq_def, h]

theorem confined_foreignValue {fits : Prop} (h : style.others = .refused) (v : Value) :
    Confined fits (foreignValue style.unlimited v) (foreignValue style v) := by
  rw [foreignValue_of_refused h, @foreignValue_of_refused style.unlimited h]
  exact .refused nofun rfl

theorem Style.inside_others (h : style.others = .refused) (hinside : style.inside? = some inner) :
    inner.others = .refused := by
  rw [(Style.inside?_eq_some hinside).2]
  exact h

mutual

/-- Writing in limited room ends as in any room, unless there is no room. -/
theorem confined_render {style : Style} (hrefused : style.others = .refused) (v : Value) :
    Confined (style.room.Fits v.depth) (render style.unlimited v) (render style v) := by
  cases v with
  | null | bool | text => exact .written (Room.fits_zero _) rfl
  | int n => exact .of_same (integer_ne_tooDeep n) fun _ _ => Room.fits_zero _
  | float x => exact .of_same (double_ne_tooDeep style x) fun _ _ => Room.fits_zero _
  | list items | tuple items =>
      rw [render, render]
      refine confined_container fun inner hinside => ?_
      rw [← Style.unlimited_inside hinside]
      exact confined_renderItems (Style.inside_others hrefused hinside) items
  | mapping entries =>
      rw [render, render]
      refine confined_container fun inner hinside => ?_
      rw [← Style.unlimited_inside hinside]
      exact confined_renderEntries (Style.inside_others hrefused hinside) entries
  | loop => exact .refused nofun rfl
  | bytes | set | decimal | moment | record =>
      rw [render, render]
      exact confined_foreignValue hrefused _

theorem confined_renderItems {style : Style} (hrefused : style.others = .refused)
    (items : List Value) :
    Confined (style.room.Fits (Value.depthItems items)) (renderItems style.unlimited items)
      (renderItems style items) := by
  cases items with
  | nil => exact .written (Room.fits_zero _) rfl
  | cons v rest =>
      rw [renderItems, renderItems, Value.depthItems, Room.fits_max_iff]
      have hfirst := confined_render hrefused v
      have hrest := confined_renderItems hrefused rest
      generalize render style v = first at hfirst ⊢
      generalize renderItems style rest = others at hrest ⊢
      cases hfirst with
      | written hfits hsame =>
          rw [hsame]
          cases hrest with
          | written hfits' hsame' => exact .written ⟨hfits, hfits'⟩ (by rw [hsame'])
          | refused hother hsame' => exact .refused hother (by rw [hsame'])
          | noRoom hdeep => exact .noRoom fun h => hdeep h.2
      | refused hother hsame => exact .refused hother (by rw [hsame])
      | noRoom hdeep => exact .noRoom fun h => hdeep h.1

theorem confined_renderEntries {style : Style} (hrefused : style.others = .refused)
    (entries : List (Value × Value)) :
    Confined (style.room.Fits (Value.depthEntries entries)) (renderEntries style.unlimited entries)
      (renderEntries style entries) := by
  cases entries with
  | nil => exact .written (Room.fits_zero _) rfl
  | cons e rest =>
      obtain ⟨k, v⟩ := e
      rw [renderEntries, renderEntries, Value.depthEntries, Room.fits_max_iff, Room.fits_max_iff]
      have hkey := confined_keyText style k
      have hfirst := confined_render hrefused v
      have hrest := confined_renderEntries hrefused rest
      generalize keyText style k = key at hkey ⊢
      generalize render style v = first at hfirst ⊢
      generalize renderEntries style rest = others at hrest ⊢
      cases hkey with
      | written hkeyFits hkeySame =>
          rw [hkeySame]
          cases hfirst with
          | written hfits hsame =>
              simp only [hsame]
              cases hrest with
              | written hfits' hsame' =>
                  exact .written ⟨⟨hkeyFits, hfits⟩, hfits'⟩ (by rw [hsame']; rfl)
              | refused hother hsame' => exact .refused hother (by rw [hsame'])
              | noRoom hdeep => exact .noRoom fun h => hdeep h.2
          | refused hother hsame => exact .refused hother (by simp only [hsame])
          | noRoom hdeep => exact .noRoom fun h => hdeep h.1.2
      | refused hother hsame => exact .refused hother (by rw [hsame])
      | noRoom hdeep => exact .noRoom fun h => hdeep h.1.1

end

end DocLedger.Json
