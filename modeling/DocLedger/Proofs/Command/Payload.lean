import DocLedger.Command.Payload
import DocLedger.Proofs.Json.Room

/-!
# Payloads that have a text

A style that refuses what documents cannot hold writes no value that holds an
integer beyond the limit on digits, and none without room.  The configuration error
about such a payload would quote the value and cannot be written either, so a
payload has a text, or is refused, or makes the call fail.
-/

namespace DocLedger.Json

theorem not_tooLong_of_integer_eq_ok {n : Int} {cs : List Char} (h : integer n = .ok cs) :
    Number.tooLong n = false := by
  cases hlong : Number.tooLong n with
  | false => rfl
  | true => simp [integer, hlong] at h

theorem overlong_of_keyText_eq_ok {style : Style} {k : Value} {cs : List Char}
    (h : keyText style k = .ok cs) : k.overlong = false := by
  cases k with
  | int n => exact not_tooLong_of_integer_eq_ok h
  | null | bool | float | text | bytes | decimal | moment | loop => rfl
  | list | tuple | set | mapping | record => cases h

mutual

theorem overlong_of_render_eq_ok {style : Style} (hrefused : style.others = .refused) {v : Value}
    {cs : List Char} (h : render style v = .ok cs) : v.overlong = false := by
  cases v with
  | int n => exact not_tooLong_of_integer_eq_ok h
  | null | bool | float | text | bytes | decimal | moment | loop => rfl
  | set | record =>
      simp [render, foreignValue, hrefused] at h
  | list items | tuple items =>
      rw [render] at h
      obtain ⟨inner, texts, hinside, hitems, -⟩ := container_eq_ok_iff.mp h
      exact overlongItems_of_renderItems_eq_ok (Style.inside_others hrefused hinside) hitems
  | mapping entries =>
      rw [render] at h
      obtain ⟨inner, texts, hinside, hentries, -⟩ := container_eq_ok_iff.mp h
      exact overlongEntries_of_renderEntries_eq_ok (Style.inside_others hrefused hinside) hentries

theorem overlongItems_of_renderItems_eq_ok {style : Style} (hrefused : style.others = .refused)
    {items : List Value} {texts : List (List Char)} (h : renderItems style items = .ok texts) :
    Value.overlongItems items = false := by
  cases items with
  | nil => rfl
  | cons v rest =>
      rw [renderItems] at h
      split at h
      · cases h
      · next hitem =>
          split at h
          · cases h
          · next hrest =>
              rw [Value.overlongItems, overlong_of_render_eq_ok hrefused hitem,
                overlongItems_of_renderItems_eq_ok hrefused hrest]
              rfl

theorem overlongEntries_of_renderEntries_eq_ok {style : Style}
    (hrefused : style.others = .refused) {entries : List (Value × Value)}
    {texts : List (List Char)} (h : renderEntries style entries = .ok texts) :
    Value.overlongEntries entries = false := by
  cases entries with
  | nil => rfl
  | cons e rest =>
      rw [renderEntries] at h
      split at h
      · cases h
      · next hkey =>
          split at h
          · cases h
          · next hitem =>
              split at h
              · cases h
              · next hrest =>
                  rw [Value.overlongEntries, overlong_of_keyText_eq_ok hkey,
                    overlong_of_render_eq_ok hrefused hitem,
                    overlongEntries_of_renderEntries_eq_ok hrefused hrest]
                  rfl

end

end DocLedger.Json

namespace DocLedger.Command

variable {room : Room} {field text : String} {v : Value}

theorem unwritten_of_ne_tooDeep (room : Room) (field : String) (v : Value)
    {fault : Json.PrintFault} (h : fault ≠ .tooDeep) :
    unwritten room field v fault = .configurationWithin room
      (field ++ " is not JSON serializable: " ++ fault.message) field v := by
  cases fault with
  | tooDeep => exact absurd rfl h
  | outOfRange | notSerializable | badKey | circular | tooManyDigits => rfl

theorem payloadWithin_eq (room : Room) (field : String) (hother : ∀ s, v ≠ .text s) :
    payloadWithin room field v =
      ((Json.render (.compactWithin room) v).map String.ofList).mapError
        (unwritten room field v) := by
  rw [payloadWithin]
  exact fun s hs => hother s hs

theorem payloadWithin_of_render_eq_ok (hother : ∀ s, v ≠ .text s) {cs : List Char}
    (h : Json.render (.compactWithin room) v = .ok cs) (field : String) :
    payloadWithin room field v = .ok (String.ofList cs) := by
  rw [payloadWithin_eq room field hother, h]
  rfl

theorem payloadWithin_of_render_eq_error (hother : ∀ s, v ≠ .text s) {fault : Json.PrintFault}
    (h : Json.render (.compactWithin room) v = .error fault) (field : String) :
    payloadWithin room field v = .error (unwritten room field v fault) := by
  rw [payloadWithin_eq room field hother, h]
  rfl

theorem payloadText_eq_ok_iff (hother : ∀ s, v ≠ .text s) :
    payloadText field v = .ok text ↔
      ∃ cs, Json.render .compact v = .ok cs ∧ text = String.ofList cs := by
  rw [payloadText, Json.Style.compact]
  cases hrender : Json.render (.compactWithin none) v with
  | error fault =>
      rw [payloadWithin_of_render_eq_error hother hrender]
      simp
  | ok cs =>
      rw [payloadWithin_of_render_eq_ok hother hrender]
      simp [eq_comm]

theorem exists_text_or (v : Value) : (∃ s, v = .text s) ∨ ∀ s, v ≠ .text s := by
  by_cases h : ∃ s, v = .text s
  · exact .inl h
  · exact .inr fun s hs => h ⟨s, hs⟩

theorem confined_compactWithin (room : Room) (v : Value) :
    Json.Confined (room.Fits v.depth) (Json.render .compact v)
      (Json.render (.compactWithin room) v) :=
  @Json.confined_render (.compactWithin room) rfl v

/-- A payload has a text, or is refused, or something in it keeps it from being
written at all. -/
theorem payloadWithin_cases (room : Room) (field : String) (v : Value) :
    (v.overlong = false ∧ room.Fits v.depth ∧ ∃ text, payloadWithin room field v = .ok text) ∨
    (v.overlong = false ∧ room.Fits v.depth ∧ ∃ message,
      payloadWithin room field v = .error (.ledger (.configuration message (some field) v))) ∨
    ∃ fault, v.Obstructs room fault ∧ payloadWithin room field v = .error (.fault fault) := by
  rcases exists_text_or v with ⟨s, rfl⟩ | hother
  · exact .inl ⟨rfl, Room.fits_zero room, s, rfl⟩
  · have hconfined := confined_compactWithin room v
    generalize hrender : Json.render (.compactWithin room) v = result at hconfined
    cases hconfined with
    | written hfits hsame =>
        exact .inl ⟨Json.overlong_of_render_eq_ok rfl hrender, hfits, _,
          payloadWithin_of_render_eq_ok hother hrender field⟩
    | @refused fault hfault hsame =>
        rw [payloadWithin_of_render_eq_error hother hrender,
          unwritten_of_ne_tooDeep room field v hfault]
        rcases Failure.configurationWithin_cases room
            (field ++ " is not JSON serializable: " ++ fault.message) field v with
          ⟨hshort, hfits, herror⟩ | ⟨f, hobstructs, herror⟩
        · exact .inr (.inl ⟨hshort, hfits, _, congrArg Except.error herror⟩)
        · exact .inr (.inr ⟨f, hobstructs, congrArg Except.error herror⟩)
    | noRoom hdeep =>
        exact .inr (.inr ⟨_, .depth hdeep _, payloadWithin_of_render_eq_error hother hrender field⟩)

/-- A payload that has room for its containers is treated as in any room. -/
theorem payloadWithin_of_fits (hfits : room.Fits v.depth) (field : String) :
    payloadWithin room field v = payloadText field v := by
  rcases exists_text_or v with ⟨s, rfl⟩ | hother
  · rfl
  · have hany : Room.Fits none v.depth := trivial
    have hconfined := confined_compactWithin room v
    rw [Json.Style.compact] at hconfined
    generalize hrender : Json.render (.compactWithin room) v = result at hconfined
    rw [payloadText]
    cases hconfined with
    | written _ hsame =>
        rw [payloadWithin_of_render_eq_ok hother hrender,
          payloadWithin_of_render_eq_ok hother hsame]
    | @refused fault hfault hsame =>
        rw [payloadWithin_of_render_eq_error hother hrender,
          payloadWithin_of_render_eq_error hother hsame, unwritten_of_ne_tooDeep _ field v hfault,
          unwritten_of_ne_tooDeep _ field v hfault, Failure.configurationWithin_of_fits hfits,
          Failure.configurationWithin_of_fits hany]
    | noRoom hdeep => exact absurd hfits hdeep

/-- A payload that has a text in limited room has the same text in any room; the field
only shows in errors. -/
theorem payloadText_of_payloadWithin (h : payloadWithin room field v = .ok text)
    (field' : String) : payloadText field' v = .ok text := by
  rcases exists_text_or v with ⟨s, rfl⟩ | hother
  · exact h
  · have hfits : room.Fits v.depth := by
      rcases payloadWithin_cases room field v with ⟨-, hfits, -⟩ | ⟨-, hfits, -⟩ |
        ⟨fault, -, herror⟩
      · exact hfits
      · exact hfits
      · rw [herror] at h
        cases h
    rw [payloadWithin_of_fits hfits, payloadText_eq_ok_iff hother] at h
    exact (payloadText_eq_ok_iff hother).mpr h

end DocLedger.Command
