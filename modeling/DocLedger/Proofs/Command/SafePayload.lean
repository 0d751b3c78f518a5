import DocLedger.Proofs.Command.Payload
import DocLedger.Proofs.Json.Composed

/-!
# Payloads on a command line

The text of a payload that is no text itself is a single word in any reading of a
command line: nothing that ends a line or a word stands in it outside strings, and
inside strings there are no control characters.
-/

namespace DocLedger.Command

open Json (Spot)

/-- The text of a payload that is no text is not empty.  No control character stands
in it, its strings all end, and no blank stands outside them. -/
theorem payloadText_safe (room : Room) (field : String) {v : Value} {text : String}
    (hother : ∀ s, v ≠ .text s) (h : payloadWithin room field v = .ok text) :
    text ≠ "" ∧ (∀ c ∈ text.toList, 0x20 ≤ c.toNat) ∧
      Spot.outside.after text.toList = .outside ∧
      ∀ c ∈ Spot.outside.bare text.toList, Text.isBlank c = false := by
  have hany := payloadText_of_payloadWithin h field
  obtain ⟨cs, hcs, rfl⟩ := (payloadText_eq_ok_iff hother).mp hany
  rw [String.toList_ofList]
  have htidy := Json.tidy_of_render_compact hcs
  refine ⟨?_, htidy.printable, htidy.stays, htidy.unblanked⟩
  intro hempty
  exact Json.ne_nil_of_render_compact hcs (by simpa using congrArg String.toList hempty)

/-- The control characters, quotes, backslashes and blanks of a key and of a string
in a list are all inside strings or escaped. -/
theorem payloadText_safe_controls :
    let v : Value := .mapping [(.text "a \"\\\n", .list [.text "\t\x00 \\", .null])]
    let text := "\x7b\"a \\\"\\\\\\n\":[\"\\t\\u0000 \\\\\",null]\x7d"
    payloadWithin (some 2) "payload" v = .ok text ∧ (∀ c ∈ text.toList, 0x20 ≤ c.toNat) ∧
      ∀ c ∈ Spot.outside.bare text.toList, Text.isBlank c = false := by
  intro v text
  have hother (s : String) : v ≠ .text s := by simp [v]
  have htext : payloadWithin (some 2) "payload" v = .ok text := rfl
  obtain ⟨-, hprintable, -, hbare⟩ := payloadText_safe (some 2) "payload" hother htext
  exact ⟨htext, hprintable, hbare⟩

end DocLedger.Command
