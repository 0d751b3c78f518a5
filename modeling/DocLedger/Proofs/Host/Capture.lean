import DocLedger.Host.Launch
import Mathlib.Data.List.Infix

/-!
# What two readers capture

However the reads of both streams are cut and interleaved, the capture of a child
depends on the bytes of each stream alone: if either has more than the limit the
capture overflows, and otherwise it holds all of them.
-/

namespace DocLedger.Host

open Engine (Bytes Child Ending)

/-- A reader that has read some bytes. -/
structure Reader.Holds (r : Reader) (bytes : Bytes) : Prop where
  total : r.total = bytes.length
  chunks : r.chunks.flatten = bytes

theorem Reader.Holds.take_eq {r : Reader} {bytes : Bytes} (h : r.Holds bytes) (limit : Int)
    (chunk : Bytes) :
    r.take limit chunk =
      if limit < ((bytes ++ chunk).length : Int) then none
      else some ⟨(bytes ++ chunk).length, r.chunks ++ [chunk]⟩ := by
  rw [Reader.take, h.total, List.length_append]
  rfl

/-- Readers that have read of each stream what is said, within the limit. -/
def Readers.Hold (limit : Int) (rs : Readers) (read : Channel → Bytes) : Prop :=
  ∀ channel, (rs.of channel).Holds (read channel) ∧ (read channel).length ≤ limit

theorem Readers.of_put (rs : Readers) (channel other : Channel) (r : Reader) :
    (rs.put channel r).of other = if other = channel then r else rs.of other := by
  cases channel <;> cases other <;> rfl

theorem bytesOf_cons (channel : Channel) (r : Read) (reads : List Read) :
    bytesOf channel (r :: reads) =
      (if r.channel = channel then r.chunk else []) ++ bytesOf channel reads :=
  List.flatMap_cons

/-- One read: the stream is past the limit with it, or the reader of the stream has
read it and that of the other has read nothing. -/
theorem Readers.take_cases {limit : Int} {rs : Readers} {read : Channel → Bytes}
    (h : rs.Hold limit read) (r : Read) :
    (rs.take limit r = .error r.channel ∧
      limit < ((read r.channel ++ r.chunk).length : Int)) ∨
    ∃ rs', rs.take limit r = .ok rs' ∧
      rs'.Hold limit fun channel => read channel ++ if r.channel = channel then r.chunk else [] := by
  have htake := (h r.channel).1.take_eq limit r.chunk
  by_cases hpast : limit < ((read r.channel ++ r.chunk).length : Int)
  · rw [if_pos hpast] at htake
    exact .inl ⟨by rw [take, htake], hpast⟩
  · rw [if_neg hpast] at htake
    refine .inr ⟨_, by rw [take, htake], ?_⟩
    intro channel
    beta_reduce
    rw [of_put]
    by_cases hchannel : channel = r.channel
    · subst hchannel
      rw [if_pos rfl, if_pos rfl]
      exact ⟨⟨rfl, by simp [(h r.channel).1.chunks]⟩, by omega⟩
    · rw [if_neg hchannel, if_neg (Ne.symm hchannel), List.append_nil]
      exact h channel

/-- All reads: a stream that is past the limit, or readers that have read both
streams. -/
theorem Readers.foldlM_take_cases {limit : Int} (reads : List Read) {rs : Readers}
    {read : Channel → Bytes} (h : rs.Hold limit read) :
    (∃ channel, reads.foldlM (take limit) rs = .error channel ∧
      limit < ((read channel ++ bytesOf channel reads).length : Int)) ∨
    ∃ rs', reads.foldlM (take limit) rs = .ok rs' ∧
      rs'.Hold limit fun channel => read channel ++ bytesOf channel reads := by
  induction reads generalizing rs read with
  | nil => exact .inr ⟨rs, rfl, fun channel => by simpa [bytesOf] using h channel⟩
  | cons r reads ih =>
      rw [List.foldlM_cons]
      rcases take_cases h r with ⟨htake, hpast⟩ | ⟨rs', htake, hhold⟩
      · refine .inl ⟨r.channel, by rw [htake]; rfl, ?_⟩
        rw [bytesOf_cons, if_pos rfl, ← List.append_assoc, List.length_append]
        omega
      · rw [htake]
        rcases ih hhold with ⟨channel, hfold, hpast⟩ | ⟨last, hfold, hlast⟩
        · refine .inl ⟨channel, hfold, ?_⟩
          rwa [bytesOf_cons, ← List.append_assoc]
        · refine .inr ⟨last, hfold, fun channel => ?_⟩
          have hchannel := hlast channel
          beta_reduce at hchannel ⊢
          rwa [List.append_assoc, ← bytesOf_cons] at hchannel

theorem Readers.fresh_cases {limit : Int} (hlimit : 0 ≤ limit) (reads : List Read) :
    (∃ channel, reads.foldlM (take limit) .fresh = .error channel ∧
      limit < ((bytesOf channel reads).length : Int)) ∨
    ∃ rs, reads.foldlM (take limit) .fresh = .ok rs ∧
      rs.Hold limit fun channel => bytesOf channel reads := by
  have hfresh : Hold limit .fresh fun _ => [] :=
    fun channel => ⟨by cases channel <;> exact ⟨rfl, rfl⟩, hlimit⟩
  exact foldlM_take_cases reads hfresh

/-- A stream with more bytes than the limit makes the capture overflow; which
stream it is for depends on the reads. -/
theorem capture_overflow {limit : Int} (hlimit : 0 ≤ limit) {reads : List Read} {channel : Channel}
    (hpast : limit < ((bytesOf channel reads).length : Int)) (ending : Ending) :
    ∃ first, capture limit reads ending = .overflow first ∧
      limit < ((bytesOf first reads).length : Int) := by
  rcases Readers.fresh_cases hlimit reads with ⟨first, hfold, hfirst⟩ | ⟨rs, -, hhold⟩
  · exact ⟨first, by rw [capture, hfold], hfirst⟩
  · exact absurd (hhold channel).2 (Int.not_le.mpr hpast)

theorem capture_fits {limit : Int} (hlimit : 0 ≤ limit) {reads : List Read}
    (hfits : ∀ channel, ((bytesOf channel reads).length : Int) ≤ limit) (ending : Ending) :
    capture limit reads ending = match ending with
      | .exits code => .ended code (bytesOf .stdout reads) (bytesOf .stderr reads)
      | .lasts _ => .endless := by
  rcases Readers.fresh_cases hlimit reads with ⟨first, -, hfirst⟩ | ⟨rs, hfold, hhold⟩
  · exact absurd (hfits first) (Int.not_le.mpr hfirst)
  · have hstdout : rs.stdout.chunks.flatten = bytesOf .stdout reads := (hhold .stdout).1.chunks
    have hstderr : rs.stderr.chunks.flatten = bytesOf .stderr reads := (hhold .stderr).1.chunks
    cases ending with
    | exits code => simp only [capture, hfold, hstdout, hstderr]
    | lasts reaction => simp only [capture, hfold]

def written (c : Child) : Channel → Bytes
  | .stdout => c.stdout.flatten
  | .stderr => c.stderr

theorem System.bytesOf_reads (s : System) (c : Child) (channel : Channel) :
    bytesOf channel (s.reads c) = written c channel := by
  cases channel with
  | stdout => exact s.reads_stdout c
  | stderr => exact s.reads_stderr c

theorem System.capture_overflow (s : System) {limit : Int} (hlimit : 0 ≤ limit) {c : Child}
    (hpast : ¬ ∀ channel, ((written c channel).length : Int) ≤ limit) :
    ∃ first, capture limit (s.reads c) c.ending = .overflow first ∧
      limit < ((written c first).length : Int) := by
  obtain ⟨channel, hchannel⟩ := not_forall.mp hpast
  rw [Int.not_le, ← s.bytesOf_reads] at hchannel
  obtain ⟨first, hcapture, hfirst⟩ := Host.capture_overflow hlimit hchannel c.ending
  rw [s.bytesOf_reads] at hfirst
  exact ⟨first, hcapture, hfirst⟩

theorem System.capture_fits (s : System) {limit : Int} (hlimit : 0 ≤ limit) {c : Child}
    (hfits : ∀ channel, ((written c channel).length : Int) ≤ limit) :
    capture limit (s.reads c) c.ending = match c.ending with
      | .exits code => .ended code c.stdout.flatten c.stderr
      | .lasts _ => .endless := by
  have hreads : ∀ channel, ((bytesOf channel (s.reads c)).length : Int) ≤ limit := by
    intro channel
    rw [s.bytesOf_reads]
    exact hfits channel
  rw [Host.capture_fits hlimit hreads, s.reads_stdout, s.reads_stderr]

end DocLedger.Host
