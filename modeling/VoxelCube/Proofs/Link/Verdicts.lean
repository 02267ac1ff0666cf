/-
How a frame ends. The receiver reports a fault on an octet exactly when the octets up to it show this
fault at their end. A frame that announces more than fits is over at the first byte that does not fit, and
its other digits say nothing to the receiver that is reset.
-/
import VoxelCube.Proofs.Link.Progress

namespace VoxelCube.Link

open Hex (IsDigit)

namespace Receiver

variable (variant : Crc.Variant) {r : Receiver} {digits : List UInt8} {c : UInt8}

/-! ## Where a receiver is -/

/-- Where a receiver is in the octets that it was fed. -/
inductive Located (seen : List UInt8) : Receiver → Prop where
  | idle (matched : Fin 3) : Located seen (idle matched)
  | opening (start : [startOctet] <:+ seen) : Located seen opening
  | reading {r : Receiver} {digits : List UInt8} (reading : Reading r digits)
    (frame : [startOctet, openOctet] ++ digits <:+ seen) : Located seen r

/-- The faults that octets show at their end: the payload of a frame is too long by its last byte, the
last octet is none that may stand in the unfinished frame, it begins no frame although one started, or
the checksum that it completes is not that of the payload. -/
def Shows (variant : Crc.Variant) (octets : List UInt8) : Fault → Prop
  | .overflow => ∃ (length : UInt16) (bytes : List UInt8), capacity < length.toNat ∧
      bytes.length = capacity + 1 ∧ [startOctet, openOctet] ++ announced length bytes <:+ octets
  | .invalidDigit => ∃ (digits : List UInt8) (c : UInt8), (∀ d ∈ digits, IsDigit d) ∧
      Unfinished digits ∧ ¬IsDigit c ∧ c ≠ startOctet ∧
      [startOctet, openOctet] ++ digits ++ [c] <:+ octets
  | .notAPacket => ∃ c : UInt8, c ≠ openOctet ∧ c ≠ startOctet ∧ [startOctet, c] <:+ octets
  | .badChecksum => ∃ (bytes : List UInt8) (received : UInt16), bytes.length ≤ capacity ∧
      received ≠ Crc.checksum variant bytes ∧
      [startOctet, openOctet] ++ Hex.encode (Word.toBytes 2 bytes.length) ++ Hex.encode bytes ++
        Hex.encode (Word.toBytes 2 received.toNat) <:+ octets

theorem suffix_push {front seen : List UInt8} : front ++ [c] <:+ seen ++ [c] ↔ front <:+ seen := by
  rw [List.suffix_append_inj_of_length_eq rfl, and_iff_left rfl]

theorem Located.wf {seen : List UInt8} (h : Located seen r) : r.WF := by
  cases h with
  | idle | opening => trivial
  | reading reading =>
    cases reading with
    | length => trivial
    | payload _ short => exact short
    | checksum _ whole fits => exact ⟨whole, fits⟩

/-- What a receiver made of the last of the octets `seen` agrees with them. -/
structure Judged (variant : Crc.Variant) (seen : List UInt8)
    (fed : Receiver × Option (Except Fault Event)) : Prop where
  located : Located seen fed.1 ∨ ∃ fault, fed.2 = some (.error fault) ∧ fault.needsReset = true
  shows : ∀ fault, fed.2 = some (.error fault) → Shows variant seen fault

theorem judged_held {variant : Crc.Variant} {seen : List UInt8} (h : Located seen r) :
    Judged variant seen (r, none) :=
  ⟨.inl h, fun _ reported => by cases reported⟩

theorem judged_fault {variant : Crc.Variant} {seen : List UInt8} {fault : Fault}
    (kept : Located seen r ∨ fault.needsReset = true) (shows : Shows variant seen fault) :
    Judged variant seen (r, some (.error fault)) where
  located := kept.imp_right fun reset => ⟨fault, rfl, reset⟩
  shows := by
    intro fault' reported
    cases reported
    exact shows

/-- Between frames a receiver stays, and whatever it reports is no frame and no fault. -/
theorem feedIdle_stays (matched : Fin 3) (c : UInt8) :
    ∃ matched' event, feedIdle matched c = (idle matched', event) ∧ ∀ p, event ≠ some (.frame p) := by
  unfold feedIdle
  split
  · exact ⟨0, some .ack, rfl, fun _ same => by cases same⟩
  split
  · exact ⟨0, some .nak, rfl, fun _ same => by cases same⟩
  split
  · split
    · exact ⟨_, none, rfl, fun _ same => by cases same⟩
    · exact ⟨0, some .probe, rfl, fun _ same => by cases same⟩
  · exact ⟨_, none, rfl, fun _ same => by cases same⟩

theorem feedIdle_judged (matched : Fin 3) (seen : List UInt8) (c : UInt8) :
    Judged variant seen (feedInside variant (idle matched) c) := by
  obtain ⟨matched', event, stays, -⟩ := feedIdle_stays matched c
  simp only [feedInside, stays]
  refine ⟨.inl (.idle matched'), fun fault reported => ?_⟩
  cases event <;> cases reported

theorem Outcome.judged {variant : Crc.Variant} {seen : List UInt8}
    {fed : Receiver × Option (Except Fault Event)}
    (h : Outcome variant digits fed) (frame : [startOctet, openOctet] ++ digits <:+ seen) :
    Judged variant seen fed := by
  cases h with
  | more reading => exact judged_held (.reading reading frame)
  | overflow large excess read => exact judged_fault (.inr rfl) ⟨_, _, large, excess, read ▸ frame⟩
  | @whole length bytes received all fits read =>
    unfold judge
    split
    · exact ⟨.inl (.idle 0), fun _ reported => by cases reported⟩
    · rename_i wrong
      refine judged_fault (.inl (.idle 0)) ⟨bytes, received, fits, wrong, ?_⟩
      rw [read, announced, ← all] at frame
      simpa only [List.append_assoc] using frame

/-- A receiver goes on being where it is, and reports what the octets show. -/
theorem Located.feed {seen : List UInt8} (h : Located seen r) (c : UInt8) :
    Judged variant (seen ++ [c]) (r.feed variant c) := by
  by_cases start : c = startOctet
  · rw [start, feed_start h.wf]
    exact judged_held (.opening (List.suffix_append seen _))
  cases h with
  | idle matched =>
    rw [feed_of_ne start]
    exact feedIdle_judged variant matched _ c
  | opening started =>
    have ends : [startOctet] ++ [c] <:+ seen ++ [c] := suffix_push.mpr started
    rw [feed_of_ne start]
    by_cases begun : c = openOctet
    · subst begun
      exact judged_held (.reading (.length {}) ends)
    · simp only [feedInside, if_neg begun]
      exact judged_fault (.inl (.idle 0)) ⟨c, begun, start, ends⟩
  | @reading _ digits reading frame =>
    by_cases digit : IsDigit c
    · refine (reading.feed_digit variant digit).judged ?_
      rw [← List.append_assoc]
      exact suffix_push.mpr frame
    · rw [reading.feed_other variant digit start]
      exact judged_fault (.inr rfl)
        ⟨digits, c, fun _ => reading.isDigit, reading.unfinished, digit, start, suffix_push.mpr frame⟩

theorem Located.next {seen : List UInt8} (h : Located seen r) (c : UInt8) :
    Located (seen ++ [c]) (next variant r c) := by
  obtain ⟨located, -⟩ := h.feed variant c
  unfold Receiver.next
  split
  · rename_i r' fault fed
    rw [fed] at located
    split
    · exact .idle 0
    · rename_i kept
      refine located.resolve_right ?_
      rintro ⟨fault', same, reset⟩
      cases same
      exact kept reset
  · rename_i r' report notFault fed
    rw [fed] at located
    refine located.resolve_right ?_
    rintro ⟨fault, faulted, -⟩
    exact notFault fault faulted

theorem located_after {seen : List UInt8} (h : Located seen r) (octets : List UInt8) :
    Located (seen ++ octets) (after variant r octets) := by
  induction octets generalizing r seen with
  | nil => exact (List.append_nil seen).symm ▸ h
  | cons c rest ih =>
    have rest' := ih (h.next variant c)
    rw [List.append_assoc] at rest'
    exact rest'

/-! ## The last digit of a frame -/

/-- All digits of a frame but the last one that is read pass in silence; the last one ends the frame. -/
theorem read_to_end (wf : r.WF) {length : UInt16} (announces : announced length [] <+: digits)
    (all : digits.length = digitsRead length) (allDigits : ∀ c ∈ digits, IsDigit c) :
    ∃ front last, digits = front ++ [last] ∧ Silent variant r ([startOctet, openOctet] ++ front) ∧
      Outcome variant digits ((after variant r ([startOctet, openOctet] ++ front)).feed variant last) := by
  have some : digits ≠ [] := by
    rintro rfl
    have long := announces.length_le
    rw [announced_length] at long
    cases long
  obtain ⟨front, last, rfl⟩ : ∃ front last, digits = front ++ [last] :=
    ⟨_, _, (List.dropLast_concat_getLast some).symm⟩
  have going : Unfinished front := by
    intro length' announces'
    obtain rfl := announced_unique (announces'.trans (List.prefix_append front [last])) announces
    rw [List.length_append, List.length_singleton] at all
    omega
  have inFront : ∀ c ∈ front, IsDigit c := fun c mem => allDigits c (List.mem_append_left [last] mem)
  have atLast : IsDigit last := allDigits last (List.mem_append_right front List.mem_cons_self)
  obtain ⟨silent, reading⟩ := reading_behind variant wf inFront going
  exact ⟨front, last, rfl, silent, reading.feed_digit variant atLast⟩

theorem after_ready_wf (octets : List UInt8) : (after variant ready octets).WF :=
  (after_sound variant (r := ready) trivial octets).1

theorem outcome_of_suffix {octets : List UInt8} {length : UInt16}
    (announces : announced length [] <+: digits) (all : digits.length = digitsRead length)
    (allDigits : ∀ c ∈ digits, IsDigit c) (ends : [startOctet, openOctet] ++ digits <:+ octets ++ [c]) :
    Outcome variant digits ((after variant ready octets).feed variant c) := by
  obtain ⟨before, split⟩ := ends
  have wf := after_ready_wf variant before
  obtain ⟨front, last, rfl, -, outcome⟩ := read_to_end variant wf announces all allDigits
  rw [← List.append_assoc, ← List.append_assoc] at split
  obtain ⟨rfl, same⟩ := List.append_inj' split rfl
  cases same
  rw [List.append_assoc, after_append]
  exact outcome

/-- Digits that reach past the payload that fits end the frame with an overflow. -/
theorem Outcome.of_overlong {variant : Crc.Variant} {fed : Receiver × Option (Except Fault Event)}
    {length : UInt16} {bytes : List UInt8} (h : Outcome variant (announced length bytes) fed)
    (large : capacity < length.toNat) (excess : bytes.length = capacity + 1) :
    fed = (stuck, some (.error .overflow)) := by
  generalize read : announced length bytes = digits at h
  have announces : announced length [] <+: digits := read ▸ announced_begins length bytes
  cases h with
  | more reading =>
    have few := reading.unfinished length announces
    rw [← read, overlong_digits large excess] at few
    exact absurd few (Nat.lt_irrefl _)
  | overflow => rfl
  | @whole length' bytes' received all fits read' =>
    have announces' : announced length' [] <+: digits :=
      read' ▸ (announced_begins length' bytes').trans (List.prefix_append _ _)
    obtain rfl := announced_unique announces announces'
    omega

/-- Digits of a payload that fits and of a checksum end the frame with the verdict on them. -/
theorem Outcome.of_whole {variant : Crc.Variant} {fed : Receiver × Option (Except Fault Event)}
    {length : UInt16} {bytes : List UInt8} {received : UInt16}
    (h : Outcome variant (announced length bytes ++ Hex.encode (Word.toBytes 2 received.toNat)) fed)
    (all : bytes.length = length.toNat) (fits : bytes.length ≤ capacity) :
    fed = (ready, some (judge variant bytes received)) := by
  generalize read : announced length bytes ++ Hex.encode (Word.toBytes 2 received.toNat) = digits at h
  have announces : announced length [] <+: digits :=
    read ▸ (announced_begins length bytes).trans (List.prefix_append _ _)
  cases h with
  | more reading =>
    have few := reading.unfinished length announces
    rw [← read, whole_digits received all fits] at few
    exact absurd few (Nat.lt_irrefl _)
  | @overflow length' bytes' large excess read' =>
    obtain rfl := announced_unique announces (read' ▸ announced_begins length' bytes')
    omega
  | @whole length' bytes' received' all' fits' read' =>
    obtain rfl := announced_unique announces
      (read' ▸ (announced_begins length' bytes').trans (List.prefix_append _ _))
    obtain ⟨-, rfl, trailer⟩ := announced_injective (read.trans read') (by omega)
    rw [word_injective trailer]

/-! ## Faults -/

theorem reports_of_shows {variant : Crc.Variant} {octets : List UInt8} {fault : Fault}
    (shows : Shows variant (octets ++ [c]) fault) :
    ((after variant ready octets).feed variant c).2 = some (.error fault) := by
  cases fault with
  | overflow =>
    obtain ⟨length, bytes, large, excess, ends⟩ := shows
    have outcome := outcome_of_suffix variant (announced_begins length bytes)
      (overlong_digits large excess) (fun _ => isDigit_of_mem_announced) ends
    rw [outcome.of_overlong large excess]
  | invalidDigit =>
    obtain ⟨digits, other, allDigits, going, wrong, plain, before, split⟩ := shows
    rw [← List.append_assoc] at split
    obtain ⟨rfl, same⟩ := List.append_inj' split rfl
    cases same
    have wf := after_ready_wf variant before
    obtain ⟨-, reading⟩ := reading_behind variant wf allDigits going
    rw [after_append, reading.feed_other variant wrong plain]
  | notAPacket =>
    obtain ⟨other, wrong, plain, before, split⟩ := shows
    rw [show [startOctet, other] = [startOctet] ++ [other] from rfl, ← List.append_assoc] at split
    obtain ⟨rfl, same⟩ := List.append_inj' split rfl
    cases same
    have wf := after_ready_wf variant before
    have opened : after variant ready (before ++ [startOctet]) = opening := by
      rw [after_append]
      exact next_held (feed_start wf)
    rw [opened, feed_of_ne plain]
    simp only [feedInside, if_neg wrong]
  | badChecksum =>
    obtain ⟨bytes, received, fits, wrong, ends⟩ := shows
    have small : bytes.length < 65536 := by unfold capacity at fits; omega
    have number : (UInt16.ofNat bytes.length).toNat = bytes.length := UInt16.toNat_ofNat_of_lt' small
    let digits := announced (UInt16.ofNat bytes.length) bytes ++
      Hex.encode (Word.toBytes 2 received.toNat)
    have all : digits.length = digitsRead (UInt16.ofNat bytes.length) :=
      whole_digits received number.symm fits
    have allDigits : ∀ d ∈ digits, IsDigit d := by
      intro d mem
      rcases List.mem_append.mp mem with front | last
      · exact isDigit_of_mem_announced front
      · exact Hex.isDigit_of_mem_encode last
    have within : [startOctet, openOctet] ++ digits <:+ octets ++ [c] := by
      simpa only [digits, announced, number, List.append_assoc] using ends
    have outcome := outcome_of_suffix variant
      ((announced_begins _ bytes).trans (List.prefix_append _ _)) all allDigits within
    rw [outcome.of_whole number.symm fits, judge, if_neg wrong]

/-- A receiver that began ready reports a fault on an octet exactly when the octets up to it show the
fault at their end. -/
theorem reports_fault_iff (octets : List UInt8) (c : UInt8) (fault : Fault) :
    ((after variant ready octets).feed variant c).2 = some (.error fault) ↔
      Shows variant (octets ++ [c]) fault := by
  have located := located_after variant (.idle 0 : Located [] ready) octets
  exact ⟨(located.feed variant c).shows fault, reports_of_shows⟩

/-! ## Frames that are too long -/

/-- Of a frame that announces more than fits, however long it is and whatever its trailer, a fault is
reported at the first byte that does not fit; on nothing else of it is anything reported. -/
theorem overlong_frame (wf : r.WF) {length : UInt16} {bytes : List UInt8} (trailer : List UInt8)
    (large : capacity < length.toNat) (all : bytes.length = length.toNat) :
    ∃ front last rest,
      [startOctet, openOctet] ++ announced length bytes ++ Hex.encode trailer = front ++ last :: rest ∧
      front ++ [last] = [startOctet, openOctet] ++ announced length (bytes.take (capacity + 1)) ∧
      Silent variant r front ∧
      (after variant r front).feed variant last = (stuck, some (.error .overflow)) ∧
      Silent variant ready rest := by
  have excess : (bytes.take (capacity + 1)).length = capacity + 1 :=
    List.length_take_of_le (by omega)
  obtain ⟨front, last, split, silent, outcome⟩ := read_to_end variant wf
    (announced_begins length (bytes.take (capacity + 1))) (overlong_digits large excess)
    fun _ => isDigit_of_mem_announced
  let rest := Hex.encode (bytes.drop (capacity + 1)) ++ Hex.encode trailer
  have restDigits : ∀ c ∈ rest, IsDigit c := by
    intro c mem
    rcases List.mem_append.mp mem with inPayload | inTrailer
    · exact Hex.isDigit_of_mem_encode inPayload
    · exact Hex.isDigit_of_mem_encode inTrailer
  refine ⟨[startOctet, openOctet] ++ front, last, rest, ?_, ?_, silent,
    outcome.of_overlong large excess, idle_silent variant (Nat.zero_le 1) restDigits⟩
  · have pieces : announced length bytes =
        front ++ [last] ++ Hex.encode (bytes.drop (capacity + 1)) := by
      rw [← split, ← announced_append, List.take_append_drop]
    rw [pieces]
    simp [rest]
  · rw [split, List.append_assoc]

end Receiver

end VoxelCube.Link
