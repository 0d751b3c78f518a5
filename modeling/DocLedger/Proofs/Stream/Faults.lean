import DocLedger.Proofs.Stream.Documents

/-!
# Streams that go wrong

Behind some documents a stream may go on with text that starts no document.  A
decoder comes to a fault in one of the pieces; until then it has handed out the
documents that the pieces before hold, and what this piece completes is not
handed out.  Documents of moderate length are no fault themselves, so that the
fault is the bad text, in the piece with its first character.
-/

namespace DocLedger.Stream

open Text (trimStart)

/-- The text that the pieces of a stream show. -/
def shown (pieces : List (List UInt8)) : List Char :=
  (Text.Utf8.read .between pieces.flatten).1

/-- A character that is not blank and starts no document. -/
structure IsBad (c : Char) : Prop where
  notBlank : Text.isBlank c = false
  notOpens : opensDocument c = false

/-! ## Bad text behind documents -/

theorem trimStart_of_isBad {c : Char} (h : IsBad c) (more : List Char) :
    trimStart (c :: more) = c :: more := by
  simp [trimStart, h.notBlank]

/-- Bad text is never part of a stream without fault. -/
theorem Holds.not_isBad {limit : Int} {cs left : List Char} {vs : List Value}
    (h : Holds limit cs vs []) {c : Char} (hbad : IsBad c) (more : List Char)
    (ws : List Value) : ¬ Holds limit (cs ++ c :: more) ws left := by
  intro hall
  obtain ⟨others, -, hothers⟩ := h.append_iff.mp hall
  have htrim := trimStart_of_isBad hbad more
  cases hothers with
  | blank hnil =>
      rw [List.nil_append, htrim] at hnil
      cases hnil
  | incomplete hcons hopens _ | document hcons hopens _ _ =>
      rw [List.nil_append, htrim] at hcons
      cases hcons
      rw [hbad.notOpens] at hopens
      cases hopens

theorem split_isBad {limit : Int} {cs left : List Char} {vs : List Value}
    (h : Holds limit cs vs left) (hleft : left = []) {c : Char} (hbad : IsBad c)
    (more : List Char) :
    ∀ fuel, (cs ++ c :: more).length < fuel →
      split limit fuel (cs ++ c :: more) = ⟨vs, [], some (.unexpected (c :: more))⟩ := by
  induction h with
  | blank htrim =>
      intro fuel hfuel
      have heq := (trimStart_append_of_eq_nil htrim (c :: more)).trans (trimStart_of_isBad hbad more)
      cases fuel with
      | zero => omega
      | succ fuel => simp [split, heq, hbad.notOpens]
  | incomplete htrim hopens hmore => cases hleft
  | @document cs tail rest left d v vs htrim hopens hread hrest ih =>
      intro fuel hfuel
      have htext := (trimStart_suffix cs).length_le
      rw [htrim] at htext
      have hshorter := (Json.readFront_leaves hread).2
      have htrim' := trimStart_append_of_eq_cons htrim (c :: more)
      have hread' := Json.readFront_append hread (enclosed_of_opens hopens tail) (c :: more)
      rw [List.cons_append] at hread'
      rw [List.length_append] at hfuel
      cases fuel with
      | zero => omega
      | succ fuel =>
          have hlater := ih hleft fuel (by rw [List.length_append]; omega)
          simp [split, htrim', hopens, hread', hlater]

/-- A fault of documents that are no bad text: one of them is too long, or has an
integer with too many digits. -/
inductive StreamFault.TooLarge : StreamFault → Prop
  | overflow : TooLarge .overflow
  | tooManyDigits (count : Nat) : TooLarge (.tooManyDigits count)

/-- What can be wrong with a front of documents is their size. -/
theorem Holds.split_front {limit : Int} {whole left : List Char} {vs : List Value}
    (h : Holds limit whole vs left) {cs more : List Char} (hwhole : whole = cs ++ more) :
    ∀ fuel fault, (split limit fuel cs).fault = some fault → fault.TooLarge := by
  -- where no document can be read, the fault is in view
  have hstops {cs : List Char} {c : Char} {front : List Char} (hfront : trimStart cs = c :: front)
      (hopens : opensDocument c = true) {reason : Json.ParseFault}
      (hread : Json.readFront (c :: front) = .error reason) (fuel : Nat) (fault : StreamFault)
      (hfault : (split limit (fuel + 1) cs).fault = some fault) : fault.TooLarge := by
    simp only [split, hfront, hopens, hread, if_true] at hfault
    split at hfault
    · next heq => cases heq
    · cases hfault
      exact .tooManyDigits _
    · split at hfault
      · cases hfault
        exact .overflow
      · cases hfault
  induction h generalizing cs with
  | blank htrim =>
      subst hwhole
      intro fuel fault hfault
      have hcs : trimStart cs = [] := by
        cases hcs : trimStart cs with
        | nil => rfl
        | cons c front =>
            rw [trimStart_append_of_eq_cons hcs more] at htrim
            cases htrim
      cases fuel <;> simp [split, hcs] at hfault
  | incomplete htrim hopens hmore =>
      subst hwhole
      intro fuel fault hfault
      cases fuel with
      | zero => simp [split] at hfault
      | succ fuel =>
          rcases trimStart_front htrim with hblank | ⟨front, hfront, rfl⟩
          · simp [split, hblank] at hfault
          · obtain ⟨-, complaint, count, hwrong⟩ := hmore
            cases hread : Json.readFront (_ :: front) with
            | error reason => exact hstops hfront hopens hread fuel fault hfault
            | ok found =>
                have hread' := Json.readFront_append hread (enclosed_of_opens hopens front) more
                rw [List.cons_append, hwrong] at hread'
                cases hread'
  | document htrim hopens hread hrest ih =>
      subst hwhole
      intro fuel fault hfault
      cases fuel with
      | zero => simp [split] at hfault
      | succ fuel =>
          rcases trimStart_front htrim with hblank | ⟨front, hfront, rfl⟩
          · simp [split, hblank] at hfault
          · cases hfound : Json.readFront (_ :: front) with
            | error reason => exact hstops hfront hopens hfound fuel fault hfault
            | ok found =>
                have hfound' := Json.readFront_append hfound (enclosed_of_opens hopens front) more
                rw [List.cons_append, hread] at hfound'
                cases hfound'
                simp only [split, hfront, hopens, hfound, if_true] at hfault
                exact ih rfl fuel fault hfault

/-- Where a front of some documents holds them all, only blanks follow it. -/
theorem Holds.left_eq_nil {limit : Int} {cs more left : List Char} {vs : List Value}
    (h : Holds limit cs vs left) (hall : Holds limit (cs ++ more) vs []) : left = [] := by
  obtain ⟨others, hvs, hothers⟩ := h.append_iff.mp hall
  obtain rfl : others = [] := by simpa using hvs
  cases h.left_self with
  | blank htrim => rfl
  | incomplete htrim hopens hmore =>
      cases hothers with
      | blank hnil =>
          rw [trimStart_append_of_eq_cons htrim more] at hnil
          cases hnil

/-! ## The piece at fault -/

/-- What a decoder has found without a fault is what the text holds. -/
theorem holds_of_feedPieces {pieces : List (List UInt8)} {d last : Decoder}
    {lists : List (List Value)} (hpending : Holds d.limit d.pending [] d.pending)
    (h : d.feedPieces pieces = (.ok lists, last)) :
    Holds d.limit (d.pending ++ (Text.Utf8.read d.partialChar pieces.flatten).1) lists.flatten
      last.pending ∧
    last = ⟨d.limit, (Text.Utf8.read d.partialChar pieces.flatten).2, last.pending⟩ := by
  induction pieces generalizing d lists with
  | nil =>
      cases h
      exact ⟨by simpa [Text.Utf8.read] using hpending, rfl⟩
  | cons piece pieces ih =>
      rw [Decoder.feedPieces] at h
      split at h
      · cases h
      · next documents next hfeed =>
          split at h
          · cases h
          · next later after hlater =>
              cases h
              obtain ⟨hfirst, hnext⟩ := Decoder.holds_of_feed hfeed
              rw [hnext] at hlater
              obtain ⟨hothers, hlast⟩ := ih hfirst.left_self hlater
              rw [List.flatten_cons, List.flatten_cons, Text.Utf8.read_append]
              refine ⟨?_, hlast⟩
              rw [← List.append_assoc]
              exact hfirst.append_iff.mpr ⟨later.flatten, rfl, hothers⟩

/-- A stream at fault is at fault in one of its pieces. -/
theorem feedPieces_fault {pieces : List (List UInt8)} {d last : Decoder} {fault : StreamFault}
    (h : d.feedPieces pieces = (.error fault, last)) :
    ∃ before piece behind lists mid, pieces = before ++ piece :: behind ∧
      d.feedPieces before = (.ok lists, mid) ∧ mid.feedBytes piece = (.error fault, last) := by
  induction pieces generalizing d with
  | nil => cases h
  | cons piece pieces ih =>
      rw [Decoder.feedPieces] at h
      split at h
      · next found next hfeed =>
          cases h
          exact ⟨[], piece, pieces, [], d, rfl, rfl, hfeed⟩
      · next documents next hfeed =>
          split at h
          · next found after hlater =>
              cases h
              obtain ⟨before, bad, behind, lists, mid, rfl, hbefore, hbad⟩ := ih hlater
              exact ⟨piece :: before, bad, behind, documents :: lists, mid, rfl,
                by simp only [Decoder.feedPieces, hfeed, hbefore], hbad⟩
          · cases h

/-- A decoder finds the documents that the pieces before hold, and comes to a fault
in a piece: bad text behind all documents, or the size of one of them. -/
structure ComesUpon (limit : Int) (front : List Char) (c : Char) (before : List (List UInt8))
    (piece : List UInt8) (found : List Value) (fault : StreamFault) : Prop where
  early : shown before <+: front
  holds : ∃ left, Holds limit (shown before) found left
  cause :
    (∃ tail, shown (before ++ [piece]) = front ++ c :: tail ∧ fault = .unexpected (c :: tail)) ∨
      (shown (before ++ [piece]) <+: front ∧
        (∀ vs left, ¬ Holds limit (shown (before ++ [piece])) vs left) ∧ fault.TooLarge)

theorem shown_append (before : List (List UInt8)) (more : List (List UInt8)) :
    shown (before ++ more) = shown before ++
      (Text.Utf8.read (Text.Utf8.read .between before.flatten).2 more.flatten).1 := by
  rw [shown, List.flatten_append, Text.Utf8.read_append, shown]

/-- A front of two lists that ends in the first or with some of the second. -/
theorem prefix_append_cons_cases {α : Type} {front xs ys : List α} {y : α}
    (h : front <+: xs ++ y :: ys) : front <+: xs ∨ ∃ tail, front = xs ++ y :: tail := by
  rcases prefix_append_cases h with ⟨behind, rfl, -⟩ | ⟨later, rfl, hlater⟩
  · exact Or.inl (List.prefix_append front behind)
  · rcases List.prefix_cons_iff.mp hlater with rfl | ⟨tail, rfl, -⟩
    · exact Or.inl (by simp)
    · exact Or.inr ⟨tail, rfl⟩

theorem Decoder.fault_of_feedBytes {limit : Int} {state : Text.Utf8.State} {pending : List Char}
    {last : Decoder} {piece : List UInt8} {fault : StreamFault}
    (h : Decoder.feedBytes ⟨limit, state, pending⟩ piece = (.error fault, last)) :
    ∃ fuel, (pending ++ (Text.Utf8.read state piece).1).length < fuel ∧
      (split limit fuel (pending ++ (Text.Utf8.read state piece).1)).fault = some fault := by
  simp only [feedBytes, feed] at h
  split at h
  · cases h
  · next hfault =>
      cases h
      exact ⟨_, Nat.lt_succ_self _, hfault⟩

/-- Bad text behind documents is come upon, if not a fault before it. -/
theorem feedPieces_isBad {limit : Int} {front more : List Char} {c : Char}
    {documents : List Value} (hfront : Holds limit front documents []) (hbad : IsBad c)
    {pieces : List (List UInt8)} (hpieces : shown pieces = front ++ c :: more) :
    ∃ before piece behind lists mid fault last, pieces = before ++ piece :: behind ∧
      (Decoder.fresh limit).feedPieces before = (.ok lists, mid) ∧
      mid.feedBytes piece = (.error fault, last) ∧
      ComesUpon limit front c before piece lists.flatten fault := by
  cases hresult : (Decoder.fresh limit).feedPieces pieces with
  | mk result last =>
  cases result with
  | ok lists =>
      have hwhole : Holds limit (shown pieces) lists.flatten last.pending :=
        (holds_of_feedPieces (.blank rfl) hresult).1
      rw [hpieces] at hwhole
      exact absurd hwhole (hfront.not_isBad hbad more _)
  | error fault =>
      obtain ⟨before, piece, behind, lists, mid, rfl, hbefore, hpiece⟩ := feedPieces_fault hresult
      refine ⟨before, piece, behind, lists, mid, fault, last, rfl, hbefore, hpiece, ?_⟩
      obtain ⟨hheld, hmid⟩ : Holds limit (shown before) lists.flatten mid.pending ∧
          mid = ⟨limit, (Text.Utf8.read .between before.flatten).2, mid.pending⟩ :=
        holds_of_feedPieces (.blank rfl) hbefore
      rw [hmid] at hpiece
      obtain ⟨fuel, hfuel, hfault⟩ := Decoder.fault_of_feedBytes hpiece
      rw [shown_append] at hpieces
      -- the pieces before show documents only, for bad text is no part of what is held
      have hearly : shown before <+: front := by
        rcases prefix_append_cons_cases ⟨_, hpieces⟩ with hearly | ⟨tail, htail⟩
        · exact hearly
        · rw [htail] at hheld
          exact absurd hheld (hfront.not_isBad hbad tail _)
      refine ⟨hearly, ⟨_, hheld⟩, ?_⟩
      obtain ⟨inside, rfl⟩ := hearly
      obtain ⟨others, -, hothers⟩ := hheld.append_iff.mp hfront
      rw [List.append_assoc, List.append_cancel_left_eq, List.flatten_cons,
        Text.Utf8.read_append] at hpieces
      rw [shown_append, List.flatten_singleton]
      rcases prefix_append_cons_cases ⟨_, hpieces⟩ with ⟨behind', hinside⟩ | ⟨tail, htail⟩
      · rw [← hinside, ← List.append_assoc] at hothers ⊢
        refine Or.inr ⟨List.prefix_append _ behind', ?_, hothers.split_front rfl fuel fault hfault⟩
        intro vs left hall
        obtain ⟨ws, -, hws⟩ := hheld.append_iff.mp hall
        rw [split_eq_of_holds hws fuel hfuel] at hfault
        cases hfault
      · refine Or.inl ⟨tail, by rw [htail, List.append_assoc], ?_⟩
        rw [htail, ← List.append_assoc] at hfault hfuel
        rw [split_isBad hothers rfl hbad tail fuel hfuel] at hfault
        exact (Option.some.inj hfault).symm

end DocLedger.Stream
