import DocLedger.Text.Utf8

/-!
# Text read in pieces

The reader of UTF-8 remembers between two pieces all that matters, so a text
cut anywhere is read as the whole of it is.  Reading the bytes of a text gives
the text back.
-/

namespace DocLedger.Text.Utf8

theorem read_append (state : State) (bytes more : List UInt8) :
    read state (bytes ++ more) =
      ((read state bytes).1 ++ (read (read state bytes).2 more).1,
        (read (read state bytes).2 more).2) := by
  induction bytes generalizing state with
  | nil => rfl
  | cons byte bytes ih => simp [read, ih]

/-! ## The bytes of one character -/

theorem toNat_ofNat_of_lt {n : Nat} (h : n < 256) : (UInt8.ofNat n).toNat = n := by
  simp [Nat.mod_eq_of_lt h]

theorem push_between (byte : UInt8) : push .between byte = start byte := by
  simp [push, restart, finish]

theorem start_single {n : Nat} (h : n < 0x80) :
    start (UInt8.ofNat n) = ([Char.ofNat n], .between) := by
  simp [start, lead, toNat_ofNat_of_lt (show n < 256 by omega), h]

theorem start_two {n : Nat} (hlow : 0xc2 ≤ n) (hhigh : n < 0xe0) :
    start (UInt8.ofNat n) = ([], .within ⟨n - 0xc0, 1, 1, 0x80, 0xbf⟩) := by
  have h₁ : ¬ n < 0x80 := by omega
  have h₂ : ¬ n < 0xc2 := by omega
  simp [start, lead, toNat_ofNat_of_lt (show n < 256 by omega), h₁, h₂, hhigh]

/-- The lead of a sequence of three bytes, of which two leads narrow the range of
the second byte. -/
theorem start_three {n : Nat} (hlow : 0xe0 ≤ n) (hhigh : n < 0xf0) :
    start (UInt8.ofNat n) =
      ([], .within ⟨n - 0xe0, 1, 2, if n = 0xe0 then 0xa0 else 0x80,
        if n = 0xed then 0x9f else 0xbf⟩) := by
  have h₁ : ¬ n < 0x80 := by omega
  have h₂ : ¬ n < 0xc2 := by omega
  have h₃ : ¬ n < 0xe0 := by omega
  simp only [start, lead, toNat_ofNat_of_lt (show n < 256 by omega), h₁, h₂, h₃, if_false]
  by_cases he0 : n = 0xe0
  · subst he0
    rfl
  · by_cases hed : n = 0xed
    · subst hed
      rfl
    · simp [he0, hed, hhigh]

/-- The lead of a sequence of four bytes, of which two leads narrow the range of
the second byte. -/
theorem start_four {n : Nat} (hlow : 0xf0 ≤ n) (hhigh : n ≤ 0xf4) :
    start (UInt8.ofNat n) =
      ([], .within ⟨n - 0xf0, 1, 3, if n = 0xf0 then 0x90 else 0x80,
        if n = 0xf4 then 0x8f else 0xbf⟩) := by
  have h₁ : ¬ n < 0x80 := by omega
  have h₂ : ¬ n < 0xc2 := by omega
  have h₃ : ¬ n < 0xe0 := by omega
  have h₄ : ¬ n < 0xf0 := by omega
  have h₅ : n ≠ 0xe0 := by omega
  have h₆ : n ≠ 0xed := by omega
  simp only [start, lead, toNat_ofNat_of_lt (show n < 256 by omega), h₁, h₂, h₃, h₄, if_false]
  by_cases hf0 : n = 0xf0
  · subst hf0
    rfl
  · by_cases hf4 : n = 0xf4
    · subst hf4
      rfl
    · simp [hf0, hf4, h₅, h₆, show n < 0xf4 by omega]

theorem push_within_more {b : Begun} {n : Nat} (hn : n < 256)
    (hlow : b.lowest ≤ n) (hhigh : n ≤ b.highest) (hmissing : 1 < b.missing) :
    push (.within b) (UInt8.ofNat n) =
      ([], .within ⟨b.bits * 64 + n % 64, b.seen + 1, b.missing - 1, 0x80, 0xbf⟩) := by
  simp [push, Begun.accepts, Begun.extendedBits, Nat.mod_eq_of_lt hn, hlow, hhigh,
    Nat.not_le_of_lt hmissing]

theorem push_within_last {b : Begun} {n : Nat} (hn : n < 256)
    (hlow : b.lowest ≤ n) (hhigh : n ≤ b.highest) (hmissing : b.missing = 1) :
    push (.within b) (UInt8.ofNat n) =
      ([Char.ofNat (b.bits * 64 + n % 64)], .between) := by
  simp [push, Begun.accepts, Begun.extendedBits, Nat.mod_eq_of_lt hn, hlow, hhigh, hmissing]

theorem read_utf8EncodeChar (c : Char) :
    read .between (String.utf8EncodeChar c) = ([c], .between) := by
  have hvalid : c.toNat < 0xd800 ∨ 0xdfff < c.toNat ∧ c.toNat < 0x110000 := c.valid
  have hc : Char.ofNat c.toNat = c := Char.ofNat_toNat c
  have hval : c.val.toNat = c.toNat := rfl
  simp only [String.utf8EncodeChar, hval]
  generalize c.toNat = n at hvalid hc
  split
  · next h₁ => simp [read, push_between, start_single (show n < 0x80 by omega), hc]
  · split
    · next h₁ h₂ =>
      have hbits : (n / 64 % 32 + 192 - 192) * 64 + (n % 64 + 128) % 64 = n := by omega
      rw [read, push_between, start_two (by omega) (by omega)]
      simp only [read]
      rw [push_within_last (by omega) (by simp) (by simp; omega) rfl]
      simp only [hbits, hc, List.nil_append, List.append_nil]
    · split
      · next h₁ h₂ h₃ =>
        have hbits : ((n / 4096 % 16 + 224 - 224) * 64 + (n / 64 % 64 + 128) % 64) * 64 +
            (n % 64 + 128) % 64 = n := by omega
        rw [read, push_between, start_three (by omega) (by omega)]
        simp only [read]
        rw [push_within_more (by omega) (by simp only; split <;> omega)
          (by simp only; split <;> omega) (by simp)]
        simp only
        rw [push_within_last (by omega) (by simp) (by simp; omega) rfl]
        simp only [hbits, hc, List.nil_append, List.append_nil]
      · next h₁ h₂ h₃ =>
        have hbits : (((n / 262144 % 8 + 240 - 240) * 64 + (n / 4096 % 64 + 128) % 64) * 64 +
            (n / 64 % 64 + 128) % 64) * 64 + (n % 64 + 128) % 64 = n := by omega
        rw [read, push_between, start_four (by omega) (by omega)]
        simp only [read]
        rw [push_within_more (by omega) (by simp only; split <;> omega)
          (by simp only; split <;> omega) (by simp)]
        simp only
        rw [push_within_more (by omega) (by simp) (by simp; omega) (by simp)]
        simp only
        rw [push_within_last (by omega) (by simp) (by simp; omega) rfl]
        simp only [hbits, hc, List.nil_append, List.append_nil]

theorem read_flatMap_utf8EncodeChar (cs : List Char) :
    read .between (cs.flatMap String.utf8EncodeChar) = (cs, .between) := by
  induction cs with
  | nil => rfl
  | cons c cs ih => simp [List.flatMap_cons, read_append, read_utf8EncodeChar, ih]

/-- Reading the bytes of a string gives its characters and leaves nothing
begun. -/
theorem read_encode (s : String) : read .between (encode s) = (s.toList, .between) :=
  read_flatMap_utf8EncodeChar s.toList

theorem decodeString_encode (s : String) : decodeString (encode s) = s := by
  rw [decodeString, decode, read_encode]
  simp [finish]

end DocLedger.Text.Utf8
