import DocLedger.Error

/-!
# Values that have room

Where the room for containers is limited, a value has a literal text if its
containers have room inside one another and none of its integers is beyond the limit
on digits.  What keeps it from having one is a fault of either kind.
-/

namespace DocLedger

namespace Room

variable {room inner : Room} {m n : Nat}

theorem fits_zero (room : Room) : room.Fits 0 := by
  cases room with
  | none => trivial
  | some n => exact Nat.zero_le n

theorem fits_max_iff : room.Fits (max m n) ↔ room.Fits m ∧ room.Fits n := by
  cases room with
  | none => simp [Fits]
  | some limit => exact Nat.max_le

theorem not_fits_succ (h : room.inside? = none) : ¬ room.Fits (n + 1) := by
  rcases room with _ | _ | limit
  · cases h
  · exact Nat.not_succ_le_zero n
  · cases h

theorem fits_succ_iff (h : room.inside? = some inner) : room.Fits (n + 1) ↔ inner.Fits n := by
  rcases room with _ | _ | limit
  · cases h
    exact Iff.rfl
  · cases h
  · cases h
    exact Nat.succ_le_succ_iff

end Room

namespace Value

/-- A fault says what a value has that keeps it from being written: an integer beyond
the limit on digits, or containers without room. -/
inductive Obstructs (room : Room) (v : Value) : Fault → Prop
  | digits (hlong : v.overlong = true) : Obstructs room v .tooManyDigits
  | depth (hdeep : ¬ room.Fits v.depth) (doing : String) : Obstructs room v (.tooDeep doing)

/-- Nothing obstructs a value that has room and no integer beyond the limit on
digits. -/
theorem not_obstructs_of_fits {room : Room} {v : Value} (hshort : v.overlong = false)
    (hfits : room.Fits v.depth) (fault : Fault) : ¬ v.Obstructs room fault := by
  intro h
  cases h with
  | digits hlong =>
      rw [hshort] at hlong
      cases hlong
  | depth hdeep => exact hdeep hfits

/-- What a search for a fault found, where the two kinds of fault have their
conditions. -/
inductive Searched (long : Bool) (fits : Prop) : Option Fault → Prop
  | clear (hshort : long = false) (hfits : fits) : Searched long fits none
  | digits (hlong : long = true) : Searched long fits (some .tooManyDigits)
  | depth (hdeep : ¬ fits) : Searched long fits (some tooDeepToQuote)

namespace Searched

variable {long long' : Bool} {room inner : Room} {m n : Nat} {found found' : Option Fault}

/-- One search after another. -/
theorem or (h : Searched long (room.Fits m) found) (h' : Searched long' (room.Fits n) found') :
    Searched (long || long') (room.Fits (max m n)) (found.or found') := by
  cases h with
  | clear hshort hfits =>
      rw [Option.none_or, hshort, Bool.false_or]
      cases h' with
      | clear hshort' hfits' => exact .clear hshort' (Room.fits_max_iff.mpr ⟨hfits, hfits'⟩)
      | digits hlong => exact .digits hlong
      | depth hdeep => exact .depth fun h => hdeep (Room.fits_max_iff.mp h).2
  | digits hlong => exact .digits (by rw [hlong, Bool.true_or])
  | depth hdeep => exact .depth fun h => hdeep (Room.fits_max_iff.mp h).1

theorem inside (search : Room → Option Fault)
    (h : ∀ inner, Searched long (Room.Fits inner n) (search inner)) :
    Searched long (room.Fits (n + 1))
      (match room.inside? with
        | none => some tooDeepToQuote
        | some inner => search inner) := by
  cases hinside : room.inside? with
  | none => exact .depth (Room.not_fits_succ hinside)
  | some inner => simpa only [Room.fits_succ_iff hinside] using h inner

end Searched

mutual

/-- The search for a fault ends with one just if there is one. -/
theorem searched_quoteFault? (room : Room) (v : Value) :
    Searched v.overlong (room.Fits v.depth) (v.quoteFault? room) := by
  cases v with
  | int n =>
      rw [quoteFault?, overlong]
      cases hlong : Number.tooLong n with
      | false => exact .clear rfl (Room.fits_zero room)
      | true => exact .digits rfl
  | list items =>
      unfold quoteFault?
      exact .inside _ fun inner => searched_itemsQuoteFault? inner items
  | tuple items =>
      unfold quoteFault?
      exact .inside _ fun inner => searched_itemsQuoteFault? inner items
  | set items =>
      unfold quoteFault?
      exact .inside _ fun inner => searched_itemsQuoteFault? inner items
  | mapping entries =>
      unfold quoteFault?
      exact .inside _ fun inner => searched_entriesQuoteFault? inner entries
  | record kind fields =>
      unfold quoteFault?
      exact .inside _ fun inner => searched_fieldsQuoteFault? inner fields
  | null | bool | float | text | bytes | decimal | moment | loop =>
      exact .clear rfl (Room.fits_zero room)

theorem searched_itemsQuoteFault? (room : Room) (items : List Value) :
    Searched (overlongItems items) (room.Fits (depthItems items))
      (itemsQuoteFault? room items) := by
  cases items with
  | nil => exact .clear rfl (Room.fits_zero room)
  | cons v rest =>
      exact (searched_quoteFault? room v).or (searched_itemsQuoteFault? room rest)

theorem searched_entriesQuoteFault? (room : Room) (entries : List (Value × Value)) :
    Searched (overlongEntries entries) (room.Fits (depthEntries entries))
      (entriesQuoteFault? room entries) := by
  cases entries with
  | nil => exact .clear rfl (Room.fits_zero room)
  | cons e rest =>
      obtain ⟨k, v⟩ := e
      have hentry := (searched_quoteFault? room k).or (searched_quoteFault? room v)
      exact hentry.or (searched_entriesQuoteFault? room rest)

theorem searched_fieldsQuoteFault? (room : Room) (fields : List (String × Value)) :
    Searched (overlongFields fields) (room.Fits (depthFields fields))
      (fieldsQuoteFault? room fields) := by
  cases fields with
  | nil => exact .clear rfl (Room.fits_zero room)
  | cons e rest =>
      exact (searched_quoteFault? room e.2).or (searched_fieldsQuoteFault? room rest)

end

end Value

namespace Failure

/-- A configuration error about a value that is to be quoted in a room. -/
theorem configurationWithin_cases (room : Room) (message field : String) (v : Value) :
    (v.overlong = false ∧ room.Fits v.depth ∧
      configurationWithin room message field v =
        .ledger (.configuration message (some field) v)) ∨
    ∃ f, v.Obstructs room f ∧ configurationWithin room message field v = .fault f := by
  have hsearched := v.searched_quoteFault? room
  rw [configurationWithin]
  generalize v.quoteFault? room = found at hsearched ⊢
  cases hsearched with
  | clear hshort hfits => exact .inl ⟨hshort, hfits, rfl⟩
  | digits hlong => exact .inr ⟨_, .digits hlong, rfl⟩
  | depth hdeep => exact .inr ⟨_, .depth hdeep _, rfl⟩

/-- A value that has room is quoted unless it holds an integer beyond the limit on
digits. -/
theorem configurationWithin_of_fits {room : Room} {v : Value} (hfits : room.Fits v.depth)
    (message field : String) :
    configurationWithin room message field v = configuration message field v := by
  rw [configuration]
  rcases configurationWithin_cases room message field v with ⟨hshort, -, herror⟩ |
    ⟨f, hobstructs, herror⟩
  · rw [herror, hshort]
    rfl
  · rw [herror]
    cases hobstructs with
    | digits hlong => rw [hlong, if_pos rfl]
    | depth hdeep => exact absurd hfits hdeep

end Failure

end DocLedger
