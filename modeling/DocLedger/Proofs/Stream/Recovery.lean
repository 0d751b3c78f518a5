import DocLedger.Proofs.Stream.Pieces

/-!
# A decoder that goes on after faults

A caller may go on with a decoder whatever its calls come to.  After every call that
returns, and after every one at fault in the text itself, what is pending is within the
limit and is either nothing or the beginning of one document.  Such a fault, like the end
of the stream, leaves nothing pending, so that texts which are added later fare as with a
decoder that has read nothing.

An integer with too many digits is no fault of this kind: the document that has it stays
pending.
-/

namespace DocLedger.Stream

/-- A fault that shows as output which cannot be decoded. -/
def StreamFault.IsDecode (fault : StreamFault) : Prop :=
  ∃ reason command stderr, fault.toFailure = .ledger (.decode reason command stderr)

theorem StreamFault.not_isDecode_tooManyDigits (count : Nat) :
    ¬ (StreamFault.tooManyDigits count).IsDecode := by
  rintro ⟨reason, command, stderr, h⟩
  cases h

/-- What a decoder may keep pending: no more than the limit, the beginning of a document
if anything, and no whole document at the front. -/
structure Settled (limit : Int) (pending : List Char) : Prop where
  fits : (pending.length : Int) ≤ limit
  opens : ∀ c more, pending = c :: more → opensDocument c = true
  noDocument : ∀ v rest, Json.readFront pending ≠ .ok (v, rest)

theorem Settled.nil {limit : Int} (h : 0 ≤ limit) : Settled limit [] := by
  constructor
  · exact h
  · intro c more hnil
    cases hnil
  · intro v rest hread
    cases hread

/-- What a text without fault leaves over can be kept. -/
theorem Holds.settled {limit : Int} {cs left : List Char} {vs : List Value}
    (h : Holds limit cs vs left) (hlimit : 0 ≤ limit) : Settled limit left := by
  induction h with
  | blank htrim => exact Settled.nil hlimit
  | incomplete htrim hopens hmore =>
      obtain ⟨hfits, complaint, behind, hread⟩ := hmore
      constructor
      · exact hfits
      · intro d tail heq
        cases heq
        exact hopens
      · intro v rest hok
        rw [hread] at hok
        cases hok
  | document htrim hopens hread hrest ih => exact ih

/-- A text at fault leaves nothing over, unless an integer in it has too many digits. -/
theorem split_rest_of_fault {limit : Int} {fuel : Nat} {cs : List Char} {fault : StreamFault}
    (h : (split limit fuel cs).fault = some fault) (hdecode : fault.IsDecode) :
    (split limit fuel cs).rest = [] := by
  induction fuel generalizing cs with
  | zero => cases h
  | succ fuel ih =>
      rw [split] at h ⊢
      cases htrim : Text.trimStart cs with
      | nil => rfl
      | cons c more =>
          simp only [htrim] at h ⊢
          by_cases hopens : opensDocument c = true
          · simp only [hopens, if_true] at h ⊢
            cases hread : Json.readFront (c :: more) with
            | ok found =>
                simp only [hread] at h ⊢
                exact ih h
            | error reason =>
                cases reason with
                | tooManyDigits count =>
                    simp only [hread, Option.some.injEq] at h
                    subst h
                    exact absurd hdecode (StreamFault.not_isDecode_tooManyDigits count)
                | malformed complaint behind =>
                    simp only [hread] at h ⊢
                    by_cases hlimit : limit < Int.ofNat (c :: more).length
                    · rw [if_pos hlimit]
                    · rw [if_neg hlimit] at h
                      cases h
          · rw [if_neg hopens]

/-! ## One call -/

/-- A call of a decoder. -/
inductive Call
  | feed (text : List Char)
  | feedBytes (bytes : List UInt8)
  | close

/-- A call and what it comes to: the documents that it completes, or the fault, and the
decoder afterwards. -/
structure Reply where
  call : Call
  result : Except StreamFault (List Value)
  after : Decoder

namespace Decoder

/-- Make a call.  The end of a stream completes no document. -/
def reply (d : Decoder) (call : Call) : Reply :=
  match call with
  | .feed text => ⟨call, (d.feed text).1, (d.feed text).2⟩
  | .feedBytes bytes => ⟨call, (d.feedBytes bytes).1, (d.feedBytes bytes).2⟩
  | .close => ⟨call, d.close.1.map fun _ => [], d.close.2⟩

theorem feed_limit (d : Decoder) (text : List Char) : (d.feed text).2.limit = d.limit := by
  unfold feed
  dsimp only
  split <;> rfl

theorem reply_limit (d : Decoder) (call : Call) : (d.reply call).after.limit = d.limit := by
  cases call with
  | feed text => exact d.feed_limit text
  | feedBytes bytes => exact feed_limit _ _
  | close =>
      unfold reply close
      dsimp only
      split <;> rfl

/-- Text that is added without a fault leaves a text that can be kept. -/
theorem settled_of_feed {d : Decoder} {text : List Char} {vs : List Value}
    (h : (d.feed text).1 = .ok vs) (hlimit : 0 ≤ d.limit) :
    Settled d.limit (d.feed text).2.pending :=
  (holds_of_feed (Prod.ext h rfl)).1.settled hlimit

theorem pending_of_feed_fault {d : Decoder} {text : List Char} {fault : StreamFault}
    (h : (d.feed text).1 = .error fault) (hdecode : fault.IsDecode) :
    (d.feed text).2.pending = [] := by
  unfold feed at h ⊢
  dsimp only at h ⊢
  split at h
  · cases h
  · next found hfault =>
    cases h
    exact split_rest_of_fault hfault hdecode

theorem close_pending (d : Decoder) : d.close.2.pending = [] := by
  unfold close
  dsimp only
  split <;> rfl

/-- A call that returns leaves a text that can be kept. -/
theorem settled_of_reply {d : Decoder} {call : Call} {vs : List Value}
    (h : (d.reply call).result = .ok vs) (hlimit : 0 ≤ d.limit) :
    Settled d.limit (d.reply call).after.pending := by
  cases call with
  | feed text => exact settled_of_feed h hlimit
  | feedBytes bytes => exact settled_of_feed (d := { d with partialChar := _ }) h hlimit
  | close =>
      show Settled d.limit d.close.2.pending
      rw [d.close_pending]
      exact Settled.nil hlimit

/-- A call at fault in the text leaves nothing. -/
theorem pending_of_reply_fault {d : Decoder} {call : Call} {fault : StreamFault}
    (h : (d.reply call).result = .error fault) (hdecode : fault.IsDecode) :
    (d.reply call).after.pending = [] := by
  cases call with
  | feed text => exact pending_of_feed_fault h hdecode
  | feedBytes bytes => exact pending_of_feed_fault (d := { d with partialChar := _ }) h hdecode
  | close => exact d.close_pending

/-! ## Any calls -/

/-- Make calls one after another, whatever each of them comes to. -/
def replies (d : Decoder) : List Call → List Reply
  | [] => []
  | call :: calls => d.reply call :: (d.reply call).after.replies calls

theorem mem_replies {d : Decoder} {calls : List Call} {r : Reply} (h : r ∈ d.replies calls) :
    ∃ now : Decoder, now.limit = d.limit ∧ r = now.reply r.call := by
  induction calls generalizing d with
  | nil => cases h
  | cons call calls ih =>
      rw [replies, List.mem_cons] at h
      rcases h with rfl | hlater
      · refine ⟨d, rfl, ?_⟩
        cases call <;> rfl
      · obtain ⟨now, hnow, hr⟩ := ih hlater
        exact ⟨now, hnow.trans (d.reply_limit call), hr⟩

/-- What a caller sees of adding texts one after another: what each call comes to, and
what is pending after it. -/
def seen (d : Decoder) (texts : List (List Char)) :
    List (Except StreamFault (List Value) × List Char) :=
  (d.replies (texts.map .feed)).map fun r => (r.result, r.after.pending)

/-- How texts fare depends on the limit and on what is pending. -/
theorem seen_congr {d d' : Decoder} (hlimit : d.limit = d'.limit)
    (hpending : d.pending = d'.pending) (texts : List (List Char)) :
    d.seen texts = d'.seen texts := by
  induction texts generalizing d d' with
  | nil => rfl
  | cons text texts ih =>
      have hfeed : (d.feed text).1 = (d'.feed text).1 ∧
          (d.feed text).2.pending = (d'.feed text).2.pending := by
        unfold feed
        dsimp only
        rw [hlimit, hpending]
        split
        · exact ⟨rfl, rfl⟩
        · exact ⟨rfl, rfl⟩
      have hlater : (d.feed text).2.seen texts = (d'.feed text).2.seen texts := by
        apply ih
        · rw [feed_limit, feed_limit, hlimit]
        · exact hfeed.2
      show ((d.feed text).1, (d.feed text).2.pending) :: (d.feed text).2.seen texts = _
      rw [hfeed.1, hfeed.2, hlater]
      rfl

end Decoder

/-- Whatever is called on a decoder, and whatever the calls before came to: a call that
returns, or is at fault in the text, leaves a text pending that can be kept; the end of the
stream and every such fault leave nothing; and after such a fault texts fare as with a
decoder that has read nothing. -/
theorem replies_recover {limit : Int} (hlimit : 0 ≤ limit) (calls : List Call) (r : Reply)
    (hr : r ∈ (Decoder.fresh limit).replies calls) :
    ((∀ fault, r.result = .error fault → fault.IsDecode) → Settled limit r.after.pending) ∧
    (r.call = .close → r.after.pending = []) ∧
    (∀ fault, r.result = .error fault → fault.IsDecode →
      r.after.pending = [] ∧
        ∀ texts, r.after.seen texts = (Decoder.fresh limit).seen texts) := by
  obtain ⟨now, hnow, hreply⟩ := Decoder.mem_replies hr
  obtain rfl : now.limit = limit := hnow
  have hafter : r.after.limit = now.limit := by
    rw [hreply]
    exact now.reply_limit r.call
  have hcleared {fault : StreamFault} (hfault : r.result = .error fault)
      (hdecode : fault.IsDecode) : r.after.pending = [] := by
    rw [hreply] at hfault ⊢
    exact Decoder.pending_of_reply_fault hfault hdecode
  refine ⟨?_, ?_, ?_⟩
  · intro hfaults
    cases hresult : r.result with
    | ok vs =>
        rw [hreply] at hresult ⊢
        exact Decoder.settled_of_reply hresult hlimit
    | error fault =>
        rw [hcleared hresult (hfaults fault hresult)]
        exact Settled.nil hlimit
  · intro hclose
    rw [hreply, hclose]
    exact now.close_pending
  · intro fault hfault hdecode
    refine ⟨hcleared hfault hdecode, ?_⟩
    intro texts
    apply Decoder.seen_congr
    · exact hafter
    · exact hcleared hfault hdecode

/-- The third call is at fault, with a part of a character unread; the document after it
is read as by a fresh decoder, and the end of the stream is at fault. -/
theorem replies_recover_unexpected :
    let calls : List Call := [.feed ['[', '1'], .feedBytes [0x5d, 0xc3], .feed ['x', '['],
      .feed ['[', ']', '['], .close]
    let replies := (Decoder.fresh 2).replies calls
    replies.map Reply.result = [.ok [], .ok [.list [.int 1]], .error (.unexpected ['x', '[']),
      .ok [.list []], .error (.truncated ['[', '\ufffd'])] ∧
    (∀ r ∈ replies, Settled 2 r.after.pending) ∧
    ∃ r ∈ replies, r.result = .error (.unexpected ['x', '[']) ∧
      ∀ texts, r.after.seen texts = (Decoder.fresh 2).seen texts := by
  intro calls replies
  have hresults : replies.map Reply.result =
      [.ok [], .ok [.list [.int 1]], .error (.unexpected ['x', '[']), .ok [.list []],
        .error (.truncated ['[', '\ufffd'])] := rfl
  have hdecode : ∀ fault, Except.error fault ∈ replies.map Reply.result → fault.IsDecode := by
    intro fault hfault
    rw [hresults] at hfault
    simp only [List.mem_cons, List.not_mem_nil, or_false, Except.error.injEq, reduceCtorEq,
      false_or] at hfault
    rcases hfault with rfl | rfl
    · exact ⟨_, _, _, rfl⟩
    · exact ⟨_, _, _, rfl⟩
  have hall (r : Reply) (hr : r ∈ replies) :=
    replies_recover (show (0 : Int) ≤ 2 by decide) calls r hr
  refine ⟨hresults, ?_, ?_⟩
  · intro r hr
    apply (hall r hr).1
    intro fault hfault
    apply hdecode
    rw [← hfault]
    exact List.mem_map_of_mem hr
  · obtain ⟨r, hr, hfault⟩ : ∃ r ∈ replies, r.result = .error (.unexpected ['x', '[']) := by
      rw [← List.mem_map, hresults]
      simp
    exact ⟨r, hr, hfault, ((hall r hr).2.2 _ hfault ⟨_, _, _, rfl⟩).2⟩

end DocLedger.Stream
