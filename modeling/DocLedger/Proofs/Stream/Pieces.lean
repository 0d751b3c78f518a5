import DocLedger.Proofs.Json.Extension
import DocLedger.Proofs.Text.Utf8
import DocLedger.Stream.Decoder

/-!
# A stream in pieces

The documents that a text holds are given by a relation without fuel.  What a
decoder keeps pending stands for all the text before it: the documents of the
text and of anything put behind it are the documents found so far, followed by
those of the pending text with the same put behind it.  For that reason it does
not matter where a stream is cut, as long as no text up to a cut is at fault.
-/

namespace DocLedger.Stream

open Text (RunsWithin trimStart)

/-- A document that is not complete and may still become so. -/
def Incomplete (limit : Int) (cs : List Char) : Prop :=
  (cs.length : Int) ≤ limit ∧
    ∃ complaint left, Json.readFront cs = .error (.malformed complaint left)

/-- A text holds the documents, one behind the other, and the rest is blank or
the beginning of another document. -/
inductive Holds (limit : Int) : List Char → List Value → List Char → Prop
  | blank {cs : List Char} (htrim : trimStart cs = []) : Holds limit cs [] []
  | incomplete {cs more : List Char} {c : Char} (htrim : trimStart cs = c :: more)
      (hopens : opensDocument c = true) (hmore : Incomplete limit (c :: more)) :
      Holds limit cs [] (c :: more)
  | document {cs more rest left : List Char} {c : Char} {v : Value} {vs : List Value}
      (htrim : trimStart cs = c :: more) (hopens : opensDocument c = true)
      (hread : Json.readFront (c :: more) = .ok (v, rest)) (hrest : Holds limit rest vs left) :
      Holds limit cs (v :: vs) left

/-! ## Texts that open a document -/

theorem enclosed_of_opens {c : Char} (h : opensDocument c = true) (more : List Char) :
    Json.Enclosed (c :: more) := by
  simp only [opensDocument, Bool.or_eq_true, beq_iff_eq] at h
  rcases h with rfl | rfl
  · exact Or.inr (Or.inr rfl)
  · exact Or.inr (Or.inl rfl)

theorem not_blank_of_opens {c : Char} (h : opensDocument c = true) :
    Text.isBlank c = false := by
  simp only [opensDocument, Bool.or_eq_true, beq_iff_eq] at h
  rcases h with rfl | rfl <;> decide

theorem trimStart_of_opens {c : Char} (h : opensDocument c = true) (more : List Char) :
    trimStart (c :: more) = c :: more := by
  simp [trimStart, not_blank_of_opens h]

theorem trimStart_suffix (cs : List Char) : trimStart cs <:+ cs :=
  List.dropWhile_suffix _

theorem trimStart_append_of_eq_nil {cs : List Char} (h : trimStart cs = []) (more : List Char) :
    trimStart (cs ++ more) = trimStart more := by
  rw [trimStart, List.dropWhile_append, if_pos (by simpa [trimStart] using h), trimStart]

theorem trimStart_append_of_eq_cons {cs tail : List Char} {c : Char}
    (h : trimStart cs = c :: tail) (more : List Char) :
    trimStart (cs ++ more) = c :: (tail ++ more) :=
  Json.dropWhile_append_of_eq_cons h more

theorem trimStart_front {cs more tail : List Char} {c : Char}
    (h : trimStart (cs ++ more) = c :: tail) :
    trimStart cs = [] ∨ ∃ front, trimStart cs = c :: front ∧ tail = front ++ more := by
  cases hcs : trimStart cs with
  | nil => exact Or.inl rfl
  | cons d front =>
      rw [trimStart_append_of_eq_cons hcs more] at h
      cases h
      exact Or.inr ⟨front, rfl, rfl⟩

/-- Without a long run of digits, a text within the limit is either read or not
complete yet. -/
theorem read_or_incomplete (limit : Int) {cs : List Char} (hlength : (cs.length : Int) ≤ limit)
    (hdigits : RunsWithin Char.isDigit Number.digitLimit cs) :
    (∃ v rest, Json.readFront cs = .ok (v, rest)) ∨ Incomplete limit cs := by
  cases hread : Json.readFront cs with
  | ok found => exact Or.inl ⟨found.1, found.2, rfl⟩
  | error fault =>
      cases fault with
      | malformed complaint left => exact Or.inr ⟨hlength, complaint, left, hread⟩
      | tooManyDigits count => exact absurd hdigits (Json.readFront_hasLongRun hread)

/-! ## What a split finds -/

theorem split_eq_of_holds {limit : Int} {cs left : List Char} {vs : List Value}
    (h : Holds limit cs vs left) :
    ∀ fuel, cs.length < fuel → split limit fuel cs = ⟨vs, left, none⟩ := by
  induction h with
  | blank htrim =>
      intro fuel hfuel
      cases fuel with
      | zero => omega
      | succ fuel => simp [split, htrim]
  | incomplete htrim hopens hmore =>
      obtain ⟨hlimit, complaint, count, hread⟩ := hmore
      intro fuel hfuel
      cases fuel with
      | zero => omega
      | succ fuel =>
          simp only [split, htrim, hopens, hread, if_true]
          exact if_neg (Int.not_lt.mpr hlimit)
  | @document cs more rest left c v vs htrim hopens hread hrest ih =>
      intro fuel hfuel
      have htext : (c :: more).length ≤ cs.length := by
        rw [← htrim]
        exact (trimStart_suffix cs).length_le
      have hshorter := (Json.readFront_leaves hread).2
      cases fuel with
      | zero => omega
      | succ fuel => simp [split, htrim, hopens, hread, ih fuel (by omega)]

theorem holds_of_split {limit : Int} {fuel : Nat} {cs : List Char}
    (hfuel : cs.length < fuel) (h : (split limit fuel cs).fault = none) :
    Holds limit cs (split limit fuel cs).documents (split limit fuel cs).rest := by
  induction fuel generalizing cs with
  | zero => omega
  | succ fuel ih =>
      rw [split] at h ⊢
      cases htrim : trimStart cs with
      | nil =>
          simp only [htrim] at h ⊢
          exact .blank htrim
      | cons c more =>
          have htext : (c :: more).length ≤ cs.length := by
            rw [← htrim]
            exact (trimStart_suffix cs).length_le
          simp only [htrim] at h ⊢
          by_cases hopens : opensDocument c = true
          · simp only [hopens, if_true] at h ⊢
            cases hread : Json.readFront (c :: more) with
            | ok found =>
                obtain ⟨v, rest⟩ := found
                have hshorter := (Json.readFront_leaves hread).2
                simp only [hread] at h ⊢
                exact .document htrim hopens hread (ih (by omega) h)
            | error fault =>
                cases fault with
                | tooManyDigits count => simp [hread] at h
                | malformed complaint count =>
                    simp only [hread] at h ⊢
                    by_cases hlimit : limit < Int.ofNat (c :: more).length
                    · rw [if_pos hlimit] at h
                      exact absurd h (by simp)
                    · rw [if_neg hlimit]
                      exact .incomplete htrim hopens
                        ⟨Int.not_lt.mp hlimit, complaint, count, hread⟩
          · simp [hopens] at h

theorem Holds.unique {limit : Int} {cs left left' : List Char} {vs vs' : List Value}
    (h : Holds limit cs vs left) (h' : Holds limit cs vs' left') : vs = vs' ∧ left = left' := by
  have hsplit := split_eq_of_holds h _ (Nat.lt_succ_self _)
  rw [split_eq_of_holds h' _ (Nat.lt_succ_self _)] at hsplit
  cases hsplit
  exact ⟨rfl, rfl⟩

/-! ## Text put behind a text -/

theorem Holds.of_trimStart_eq {limit : Int} {cs ds left : List Char} {vs : List Value}
    (h : Holds limit cs vs left) (heq : trimStart ds = trimStart cs) :
    Holds limit ds vs left := by
  cases h with
  | blank htrim => exact .blank (heq.trans htrim)
  | incomplete htrim hopens hmore => exact .incomplete (heq.trans htrim) hopens hmore
  | document htrim hopens hread hrest =>
      exact .document (heq.trans htrim) hopens hread hrest

theorem Holds.left_self {limit : Int} {cs left : List Char} {vs : List Value}
    (h : Holds limit cs vs left) : Holds limit left [] left := by
  induction h with
  | blank htrim => exact .blank rfl
  | @incomplete cs more c htrim hopens hmore =>
      exact .incomplete (trimStart_of_opens hopens more) hopens hmore
  | document htrim hopens hread hrest ih => exact ih

/-- The text left over stands for the whole text, whatever is put behind it. -/
theorem Holds.append_iff {limit : Int} {cs mid : List Char} {vs : List Value}
    (h : Holds limit cs vs mid) {more left : List Char} {all : List Value} :
    Holds limit (cs ++ more) all left ↔
      ∃ others, all = vs ++ others ∧ Holds limit (mid ++ more) others left := by
  induction h generalizing all with
  | @blank cs htrim =>
      have heq : trimStart (cs ++ more) = trimStart more :=
        trimStart_append_of_eq_nil htrim more
      constructor
      · intro hall
        exact ⟨all, rfl, hall.of_trimStart_eq heq.symm⟩
      · rintro ⟨others, rfl, hothers⟩
        exact Holds.of_trimStart_eq hothers heq
  | @incomplete cs tail c htrim hopens hmore =>
      have heq : trimStart (cs ++ more) = trimStart (c :: tail ++ more) := by
        rw [trimStart_append_of_eq_cons htrim more, List.cons_append,
          trimStart_of_opens hopens]
      constructor
      · intro hall
        exact ⟨all, rfl, hall.of_trimStart_eq heq.symm⟩
      · rintro ⟨others, rfl, hothers⟩
        exact Holds.of_trimStart_eq hothers heq
  | @document cs tail rest mid c v vs htrim hopens hread hrest ih =>
      have htrim' := trimStart_append_of_eq_cons htrim more
      have hread' := Json.readFront_append hread (enclosed_of_opens hopens tail) more
      constructor
      · intro hall
        cases hall with
        | blank hnil =>
            rw [hnil] at htrim'
            cases htrim'
        | incomplete hcons hopens' hmore =>
            obtain ⟨-, complaint, count, hfault⟩ := hmore
            rw [hcons] at htrim'
            cases htrim'
            rw [List.cons_append, hfault] at hread'
            cases hread'
        | document hcons hopens' hfound hothers =>
            rw [hcons] at htrim'
            cases htrim'
            rw [List.cons_append, hfound] at hread'
            cases hread'
            obtain ⟨others, rfl, hmid⟩ := ih.mp hothers
            exact ⟨others, rfl, hmid⟩
      · rintro ⟨others, rfl, hothers⟩
        exact .document htrim' hopens hread' (ih.mpr ⟨others, rfl, hothers⟩)

/-! ## A decoder fed with pieces -/

namespace Decoder

theorem feed_eq_of_holds {d : Decoder} {cs left : List Char} {vs : List Value}
    (h : Holds d.limit (d.pending ++ cs) vs left) :
    d.feed cs = (.ok vs, { d with pending := left }) := by
  simp only [feed, split_eq_of_holds h _ (Nat.lt_succ_self _)]

theorem holds_of_feed {d next : Decoder} {cs : List Char} {vs : List Value}
    (h : d.feed cs = (.ok vs, next)) :
    Holds d.limit (d.pending ++ cs) vs next.pending ∧
      next = { d with pending := next.pending } := by
  simp only [feed] at h
  split at h
  · next hfault =>
      cases h
      exact ⟨holds_of_split (Nat.lt_succ_self _) hfault, rfl⟩
  · next => cases h

/-- Add pieces of the stream one after another, up to the first fault: the
documents that each of them completes. -/
def feedPieces (d : Decoder) :
    List (List UInt8) → Except StreamFault (List (List Value)) × Decoder
  | [] => (.ok [], d)
  | piece :: pieces =>
    match d.feedBytes piece with
    | (.error fault, next) => (.error fault, next)
    | (.ok documents, next) =>
      match next.feedPieces pieces with
      | (.error fault, last) => (.error fault, last)
      | (.ok lists, last) => (.ok (documents :: lists), last)

end Decoder

/-- No text up to a cut behind the pending text is at fault. -/
def Steady (limit : Int) (pending cs : List Char) : Prop :=
  ∀ front, front <+: cs → ∃ vs left, Holds limit (pending ++ front) vs left

theorem Steady.append {limit : Int} {pending cs more left : List Char} {vs : List Value}
    (h : Steady limit pending (cs ++ more)) (hcs : Holds limit (pending ++ cs) vs left) :
    Steady limit left more := by
  intro front hfront
  obtain ⟨all, last, hall⟩ := h (cs ++ front) ((List.prefix_append_right_inj cs).mpr hfront)
  rw [← List.append_assoc] at hall
  obtain ⟨others, -, hothers⟩ := hcs.append_iff.mp hall
  exact ⟨others, last, hothers⟩

/-- A steady stream gives the same documents and leaves the same text over,
wherever it is cut. -/
theorem feedPieces_eq_of_steady (pieces : List (List UInt8)) {d : Decoder}
    (hpending : Holds d.limit d.pending [] d.pending)
    (hsteady : Steady d.limit d.pending (Text.Utf8.read d.partialChar pieces.flatten).1) :
    ∃ lists left,
      d.feedPieces pieces =
        (.ok lists, ⟨d.limit, (Text.Utf8.read d.partialChar pieces.flatten).2, left⟩) ∧
      Holds d.limit (d.pending ++ (Text.Utf8.read d.partialChar pieces.flatten).1)
        lists.flatten left := by
  induction pieces generalizing d with
  | nil =>
      refine ⟨[], d.pending, rfl, ?_⟩
      simpa [Text.Utf8.read] using hpending
  | cons piece pieces ih =>
      rw [List.flatten_cons, Text.Utf8.read_append] at hsteady ⊢
      obtain ⟨vs, left, hfirst⟩ := hsteady _ (List.prefix_append _ _)
      have hfeed : d.feedBytes piece =
          (.ok vs, ⟨d.limit, (Text.Utf8.read d.partialChar piece).2, left⟩) :=
        Decoder.feed_eq_of_holds (d := { d with partialChar := _ }) hfirst
      obtain ⟨lists, last, hpieces, hlater⟩ :=
        ih (d := ⟨d.limit, (Text.Utf8.read d.partialChar piece).2, left⟩)
          hfirst.left_self (hsteady.append hfirst)
      refine ⟨vs :: lists, last, ?_, ?_⟩
      · simp only [Decoder.feedPieces, hfeed, hpieces]
      · rw [← List.append_assoc]
        exact hfirst.append_iff.mpr ⟨lists.flatten, rfl, hlater⟩

/-- A fresh decoder fed with the pieces of a steady stream is in no respect
different from one that is fed with the whole of it. -/
theorem feedPieces_fresh_of_steady {limit : Int} {pieces : List (List UInt8)}
    {left : List Char} {vs : List Value}
    (hsteady : Steady limit [] (Text.Utf8.read .between pieces.flatten).1)
    (hwhole : Holds limit (Text.Utf8.read .between pieces.flatten).1 vs left) :
    ∃ lists,
      (Decoder.fresh limit).feedPieces pieces =
        (.ok lists, ⟨limit, (Text.Utf8.read .between pieces.flatten).2, left⟩) ∧
      lists.flatten = vs := by
  obtain ⟨lists, last, hpieces, hlists⟩ :=
    feedPieces_eq_of_steady (d := Decoder.fresh limit) pieces (.blank rfl) hsteady
  obtain ⟨hdocuments, hleft⟩ := Holds.unique hlists hwhole
  exact ⟨lists, by rw [hpieces, ← hleft]; rfl, hdocuments⟩

/-! ## Streams of bounded length -/

/-- A text of bounded length that is not at fault has no front at fault. -/
theorem Holds.front {limit : Int} {whole left : List Char} {vs : List Value}
    (h : Holds limit whole vs left) {cs more : List Char} (hwhole : whole = cs ++ more)
    (hlength : (cs.length : Int) ≤ limit)
    (hdigits : RunsWithin Char.isDigit Number.digitLimit cs) :
    ∃ vs' left', Holds limit cs vs' left' := by
  induction h generalizing cs with
  | blank htrim =>
      subst hwhole
      refine ⟨[], [], .blank ?_⟩
      cases hcs : trimStart cs with
      | nil => rfl
      | cons c front =>
          rw [trimStart_append_of_eq_cons hcs more] at htrim
          cases htrim
  | incomplete htrim hopens hmore =>
      subst hwhole
      rcases trimStart_front htrim with hblank | ⟨front, hfront, rfl⟩
      · exact ⟨[], [], .blank hblank⟩
      · have hsuffix := trimStart_suffix cs
        rw [hfront] at hsuffix
        have hshort := hsuffix.length_le
        rcases read_or_incomplete limit (by omega) (hdigits.mono hsuffix.isInfix)
          with ⟨v, rest, hread⟩ | hpart
        · obtain ⟨-, complaint, count, hfault⟩ := hmore
          have hread' := Json.readFront_append hread (enclosed_of_opens hopens front) more
          rw [List.cons_append, hfault] at hread'
          cases hread'
        · exact ⟨[], _, .incomplete hfront hopens hpart⟩
  | document htrim hopens hread hrest ih =>
      subst hwhole
      rcases trimStart_front htrim with hblank | ⟨front, hfront, rfl⟩
      · exact ⟨[], [], .blank hblank⟩
      · have hsuffix := trimStart_suffix cs
        rw [hfront] at hsuffix
        have hshort := hsuffix.length_le
        rcases read_or_incomplete limit (by omega) (hdigits.mono hsuffix.isInfix)
          with ⟨v, rest, hfound⟩ | hpart
        · have hfound' := Json.readFront_append hfound (enclosed_of_opens hopens front) more
          rw [List.cons_append, hread] at hfound'
          cases hfound'
          have hleaves := Json.readFront_leaves hfound
          have hrestShort := hleaves.1.length_le
          obtain ⟨vs', left', hlater⟩ := ih rfl (by omega)
            (hdigits.mono (hleaves.1.trans hsuffix).isInfix)
          exact ⟨_, left', .document hfront hopens hfound hlater⟩
        · exact ⟨[], _, .incomplete hfront hopens hpart⟩

theorem Holds.steady {limit : Int} {cs left : List Char} {vs : List Value}
    (h : Holds limit cs vs left) (hlength : (cs.length : Int) ≤ limit)
    (hdigits : RunsWithin Char.isDigit Number.digitLimit cs) :
    Steady limit [] cs := by
  rintro front ⟨more, hmore⟩
  have hshort : (front.length : Int) ≤ limit := by
    rw [← hmore, List.length_append] at hlength
    omega
  exact h.front hmore.symm hshort (hdigits.mono ⟨[], more, hmore⟩)

/-- A stream that is read at once without a fault, and whose text is within the
limit and free of long runs of digits, gives the same documents in pieces, and
leaves the decoder in the same state.  What ends the stream after that, `close`,
depends on the state alone. -/
theorem feedPieces_eq_feedBytes_flatten {limit : Int} {pieces : List (List UInt8)}
    {documents : List Value} {whole : Decoder}
    (hdigits : RunsWithin Text.Utf8.isDigitByte Number.digitLimit pieces.flatten)
    (hlength : ((Text.Utf8.read .between pieces.flatten).1.length : Int) ≤ limit)
    (hwhole : (Decoder.fresh limit).feedBytes pieces.flatten = (.ok documents, whole)) :
    ∃ lists, (Decoder.fresh limit).feedPieces pieces = (.ok lists, whole) ∧
      lists.flatten = documents := by
  obtain ⟨hholds, hstate⟩ := Decoder.holds_of_feed hwhole
  have hsteady := Holds.steady hholds hlength (Text.Utf8.runsWithin_read hdigits)
  rw [hstate]
  exact feedPieces_fresh_of_steady hsteady hholds

/-- A document with an ill-formed byte, cut inside a character, and the
beginning of another, cut inside a character as well. -/
theorem feedPieces_cut_inside_characters :
    let pieces : List (List UInt8) :=
      [[0x5b, 0x22, 0xc3], [], [0xa9, 0xff, 0x22, 0x5d, 0x20, 0x7b], [0x22, 0xe2]]
    let whole : Decoder := ⟨9, .within ⟨2, 1, 2, 0x80, 0xbf⟩, ['\x7b', '"']⟩
    RunsWithin Text.Utf8.isDigitByte Number.digitLimit pieces.flatten ∧
    ((Text.Utf8.read .between pieces.flatten).1.length : Int) ≤ 9 ∧
    (Decoder.fresh 9).feedBytes pieces.flatten = (.ok [.list [.text "é\ufffd"]], whole) ∧
    ∃ lists, (Decoder.fresh 9).feedPieces pieces = (.ok lists, whole) ∧
      lists.flatten = [.list [.text "é\ufffd"]] := by
  intro pieces whole
  have hdigits : RunsWithin Text.Utf8.isDigitByte Number.digitLimit pieces.flatten := by
    intro run hrun _
    exact Nat.le_trans hrun.length_le (by decide)
  have hlength : ((Text.Utf8.read .between pieces.flatten).1.length : Int) ≤ 9 := by decide
  have hread : Text.Utf8.read .between pieces.flatten =
      (['[', '"', 'é', '\ufffd', '"', ']', ' ', '\x7b', '"'], whole.partialChar) := by decide
  have hholds : Holds 9 ['[', '"', 'é', '\ufffd', '"', ']', ' ', '\x7b', '"']
      [.list [.text "é\ufffd"]] whole.pending :=
    .document rfl rfl rfl (.incomplete rfl rfl ⟨by decide, _, _, rfl⟩)
  have hwhole : (Decoder.fresh 9).feedBytes pieces.flatten =
      (.ok [.list [.text "é\ufffd"]], whole) := by
    simp only [Decoder.feedBytes, Decoder.fresh, hread]
    exact Decoder.feed_eq_of_holds hholds
  exact ⟨hdigits, hlength, hwhole, feedPieces_eq_feedBytes_flatten hdigits hlength hwhole⟩

end DocLedger.Stream
