/-
What a receiver hears between frames. The letters of the identity probe are three different ones, so at
most one beginning of the probe ends the octets heard so far, and the receiver counts its letters: a
probe that breaks off leaves nothing but its first letter. So the reports on octets between frames are
those that the octets call for. Inside a frame nothing of this is heard, and nothing of what a frame
holds counts towards a probe behind it.
-/
import Mathlib.Data.List.Induction
import VoxelCube.Proofs.Link.Recognition
import VoxelCube.Proofs.Link.Registers

namespace VoxelCube.Link

/-- The first letters of the identity probe. -/
def probeFront (n : Nat) : List UInt8 := probeLetters.toList.take n

/-- The octets call for an event at the last of them: they end with what announces it. No frame is
announced between frames. -/
def Calls (octets : List UInt8) : Event → Prop
  | .ack => [ackOctet] <:+ octets
  | .nak => [nakOctet] <:+ octets
  | .probe => probeLetters.toList <:+ octets
  | .frame _ => False

namespace Port

variable {σ τ : Type} (p : Port σ)

/-- A receiver that is neither in a frame nor stuck. -/
def Between (s : σ) : Prop := p.isInFrame s = false ∧ p.isStuck s = false

/-- A receiver hears exactly what it is told between frames, `new` being one that is between frames and
has read nothing of a probe. -/
structure Listens (new : σ) : Prop where
  /-- On octets without a start octet it reports what they call for, and nothing else. -/
  outside : ∀ octets c report, startOctet ∉ octets ++ [c] →
    ((p.feed (p.run new (octets.map .octet)) c).2 = some report ↔
      ∃ event, report = .ok event ∧ Calls (octets ++ [c]) event)
  /-- In a frame, the only good news is a frame. -/
  inside : ∀ past c event, p.isInFrame (p.run new past) = true →
    (p.feed (p.run new past) c).2 = some (.ok event) → ∃ payload, event = .frame payload
  /-- A probe is three octets in a row, each of which finds the receiver between frames. -/
  counted : ∀ past c, (p.feed (p.run new past) c).2 = some (.ok .probe) ↔
    ∃ before, past ++ [.octet c] = before ++ probeLetters.toList.map .octet ∧
      ∀ n < 3, p.Between (p.run new (before ++ (probeFront n).map .octet))

/-- What simulates a receiver that listens does so too. -/
theorem Simulates.listens {p : Port σ} {q : Port τ} {R : σ → τ → Prop} (h : p.Simulates q R) {s : σ}
    {t : τ} (related : R s t) (listens : q.Listens t) : p.Listens s := by
  have report (past : List Input) (c : UInt8) :
      (p.feed (p.run s past) c).2 = (q.feed (q.run t past) c).2 := (h.feed (h.run related past) c).2
  have inFrame (past : List Input) : p.isInFrame (p.run s past) = q.isInFrame (q.run t past) :=
    h.inFrame (h.run related past)
  have stuck (past : List Input) : p.isStuck (p.run s past) = q.isStuck (q.run t past) :=
    h.stuck (h.run related past)
  constructor
  · intro octets c told noStart
    rw [report]
    exact listens.outside octets c told noStart
  · intro past c event inside told
    rw [inFrame] at inside
    rw [report] at told
    exact listens.inside past c event inside told
  · intro past c
    simp only [report, Between, inFrame, stuck]
    exact listens.counted past c

end Port

namespace Receiver

/-! ## Letters of the probe -/

theorem probeFront_succ {n : Nat} (inside : n < 3) :
    probeFront (n + 1) = probeFront n ++ [probeLetters[n]] := by
  revert n
  decide

/-- One letter more ends the octets if the ones before it ended those before the last. -/
theorem probeFront_ends_concat {n : Nat} (inside : n < 3) (octets : List UInt8) (c : UInt8) :
    probeFront (n + 1) <:+ octets ++ [c] ↔ probeFront n <:+ octets ∧ probeLetters[n]? = some c := by
  have alike : [probeLetters[n]].length = [c].length := rfl
  rw [probeFront_succ inside, List.suffix_append_inj_of_length_eq alike, List.singleton_inj,
    probeLetters_eq_some inside, eq_comm (a := c)]

/-- So many letters of the probe end the octets, and no other number of them that leaves the probe
unfinished. -/
def Heard (matched : Nat) (octets : List UInt8) : Prop :=
  ∀ n, 0 < n → n < 3 → (probeFront n <:+ octets ↔ matched = n)

theorem heard_nil : Heard (0 : Fin 3) [] := by
  intro n pos inside
  have letters : probeFront n ≠ [] := by
    obtain rfl | rfl : n = 1 ∨ n = 2 := by omega
    · decide
    · decide
  rw [List.suffix_nil]
  exact iff_of_false letters (Nat.ne_of_lt pos)

variable {octets : List UInt8}

/-- The letters after the first one go on from those before. -/
theorem Heard.ends_concat {matched : Nat} (h : Heard matched octets) {n : Nat} (pos : 0 < n)
    (inside : n < 3) (c : UInt8) :
    probeFront (n + 1) <:+ octets ++ [c] ↔ matched = n ∧ probeLetters[n]? = some c := by
  rw [probeFront_ends_concat inside, h n pos inside]

/-- The first letter may follow anything. -/
theorem first_ends_concat (octets : List UInt8) (c : UInt8) :
    probeFront 1 <:+ octets ++ [c] ↔ probeLetters[0]? = some c := by
  have first := probeFront_ends_concat (by decide : 0 < 3) octets c
  exact first.trans (and_iff_right List.nil_suffix)

/-- What is heard with one octet more: it is the first letter, or goes on from a first one. -/
theorem Heard.concat {matched matched' : Nat} {c : UInt8} (h : Heard matched octets)
    (first : probeLetters[0]? = some c ↔ matched' = 1)
    (second : matched = 1 ∧ probeLetters[1]? = some c ↔ matched' = 2) :
    Heard matched' (octets ++ [c]) := by
  intro n pos inside
  obtain rfl | rfl : n = 1 ∨ n = 2 := by omega
  · exact (first_ends_concat octets c).trans first
  · exact (h.ends_concat Nat.one_pos (by decide) c).trans second

/-! ## Octets between frames -/

/-- What octets call for, by the last of them and the letters heard before it. -/
theorem Heard.calls_iff {matched : Nat} (h : Heard matched octets) (c : UInt8) (event : Event) :
    Calls (octets ++ [c]) event ↔
      c = ackOctet ∧ event = .ack ∨ c = nakOctet ∧ event = .nak ∨
        (matched = 2 ∧ probeLetters[2]? = some c) ∧ event = .probe := by
  cases event with
  | frame payload => simp [Calls]
  | ack => simp [Calls, eq_comm]
  | nak => simp [Calls, eq_comm]
  | probe =>
    have third : probeLetters.toList <:+ octets ++ [c] ↔ matched = 2 ∧ probeLetters[2]? = some c :=
      h.ends_concat Nat.two_pos (by decide) c
    simpa [Calls] using third

/-- What a receiver makes of an octet between frames. -/
theorem feedIdle_eq (matched : Fin 3) (c : UInt8) : feedIdle matched c =
    (idle (if probeLetters[0]? = some c then 1
        else if matched.val = 1 ∧ probeLetters[1]? = some c then 2 else 0),
      if c = ackOctet then some .ack
      else if c = nakOctet then some .nak
      else if matched.val = 2 ∧ probeLetters[2]? = some c then some .probe
      else none) := by
  have first := probeLetters_eq_some (by decide : 0 < 3) c
  have second := probeLetters_eq_some (by decide : 1 < 3) c
  have third := probeLetters_eq_some (by decide : 2 < 3) c
  by_cases known : c = ackOctet ∨ c = nakOctet ∨ c = probeLetters[0] ∨ c = probeLetters[1] ∨
      c = probeLetters[2]
  · -- five different octets
    clear first second third
    rcases known with rfl | rfl | rfl | rfl | rfl <;> revert matched <;> decide
  · simp only [not_or] at known
    obtain ⟨ack, nak, notFirst, notSecond, notThird⟩ := known
    have letter : c ≠ probeLetters[matched] := by
      obtain ⟨_ | _ | _ | n, inside⟩ := matched
      · exact notFirst
      · exact notSecond
      · exact notThird
      · omega
    simp only [feedIdle, first, second, third, ack, nak, notFirst, notSecond, notThird, letter,
      and_false, ↓reduceIte]

/-- A receiver between frames goes on counting the letters that it heard, and reports what the octets
call for. -/
theorem feedIdle_heard {matched : Fin 3} (h : Heard matched octets) (c : UInt8) :
    ∃ matched' : Fin 3, (feedIdle matched c).1 = idle matched' ∧ Heard matched' (octets ++ [c]) ∧
      ∀ event, (feedIdle matched c).2 = some event ↔ Calls (octets ++ [c]) event := by
  rw [feedIdle_eq]
  have letters : probeLetters[0]? ≠ probeLetters[1]? := by decide
  have signs : ackOctet ≠ nakOctet ∧ probeLetters[2]? ≠ some ackOctet ∧
      probeLetters[2]? ≠ some nakOctet := by
    decide
  -- the first letter is not the second one, and no sign is the third one
  refine ⟨_, rfl, h.concat ?_ ?_, ?_⟩
  · grind
  · grind
  · intro event
    rw [h.calls_iff]
    grind

variable (variant : Crc.Variant)

/-- Octets without a start octet leave a receiver between frames. -/
theorem run_heard {matched : Fin 3} (h : Heard matched octets) {more : List UInt8}
    (plain : startOctet ∉ more) :
    ∃ matched' : Fin 3, (port variant).run (idle matched) (more.map .octet) = idle matched' ∧
      Heard matched' (octets ++ more) := by
  -- The induction is on the octets to come; those that were heard are in the counter.
  induction more generalizing matched octets with
  | nil => exact ⟨matched, rfl, by rwa [List.append_nil]⟩
  | cons c rest ih =>
    rw [List.mem_cons, not_or] at plain
    obtain ⟨matched', moved, heard, -⟩ := feedIdle_heard h c
    have fed : ((idle matched).feed variant c).1 = idle matched' := by
      rw [feed_of_ne (Ne.symm plain.1)]
      exact moved
    obtain ⟨matched'', settled, heard'⟩ := ih heard plain.2
    refine ⟨matched'', ?_, ?_⟩
    · rw [← settled, ← fed]
      rfl
    · rwa [List.append_assoc] at heard'

theorem between_iff (r : Receiver) : (port variant).Between r ↔ ∃ matched, r = idle matched := by
  cases r <;> simp [Port.Between, port, isInFrame, isStuck]

/-! ## Octets in a frame -/

/-- What a receiver that is not between frames makes of an octet: it reports no event but a frame, and
where it comes between frames, it has heard nothing yet. -/
structure Deaf (fed : Receiver × Option (Except Fault Event)) : Prop where
  fresh : ∀ matched, fed.1 = idle matched → matched = 0
  event : ∀ event, fed.2 = some (.ok event) → ∃ payload, event = .frame payload

theorem deaf_none {r : Receiver} (busy : r.isInFrame = true ∨ r.isStuck = true) : Deaf (r, none) := by
  constructor
  · rintro matched rfl
    rcases busy with inFrame | stuck
    · cases inFrame
    · cases stuck
  · intro event told
    cases told

theorem deaf_failed {r : Receiver} (fresh : ∀ matched, r = idle matched → matched = 0)
    (fault : Fault) : Deaf (r, some (.error fault)) := by
  refine ⟨fresh, ?_⟩
  intro event told
  cases told

theorem deaf_stuck (fault : Fault) : Deaf (stuck, some (.error fault)) := by
  refine deaf_failed ?_ fault
  intro matched idle
  cases idle

theorem ready_fresh (matched : Fin 3) (same : ready = idle matched) : matched = 0 := by
  cases same
  rfl

theorem deaf_judge (payload : List UInt8) (received : UInt16) :
    Deaf (ready, some (judge variant payload received)) := by
  unfold judge
  split
  · refine ⟨ready_fresh, ?_⟩
    intro event told
    cases told
    exact ⟨payload, rfl⟩
  · exact deaf_failed ready_fresh .badChecksum

theorem feedInside_deaf {r : Receiver} (busy : ∀ matched, r ≠ idle matched) (c : UInt8) :
    Deaf (r.feedInside variant c) := by
  cases r with
  | idle matched => exact absurd rfl (busy matched)
  | opening =>
    by_cases opened : c = openOctet
    · simp only [feedInside, if_pos opened]
      exact deaf_none (.inl rfl)
    · simp only [feedInside, if_neg opened]
      exact deaf_failed ready_fresh .notAPacket
  | length digits =>
    rcases fed : digits.feed c with ⟨digits', held | n | invalid⟩ <;> simp only [feedInside, fed]
    · exact deaf_none (.inl rfl)
    · split <;> exact deaf_none (.inl rfl)
    · exact deaf_stuck .invalidDigit
  | payload part pair =>
    rcases fed : pair.feed c with ⟨pair', held | b | invalid⟩ <;> simp only [feedInside, fed]
    · exact deaf_none (.inl rfl)
    · unfold takePayload
      split
      · exact deaf_stuck .overflow
      · dsimp only
        split <;> exact deaf_none (.inl rfl)
    · exact deaf_stuck .invalidDigit
  | checksum part digits =>
    rcases fed : digits.feed c with ⟨digits', held | n | invalid⟩ <;> simp only [feedInside, fed]
    · exact deaf_none (.inl rfl)
    · exact deaf_judge variant part.bytes n
    · exact deaf_stuck .invalidDigit
  | stuck => exact deaf_none (.inr rfl)

theorem feed_deaf {r : Receiver} (busy : ∀ matched, r ≠ idle matched) (c : UInt8) :
    Deaf (r.feed variant c) := by
  unfold feed
  split
  · exact deaf_none (.inl rfl)
  · exact feedInside_deaf variant busy c

/-! ## Any inputs -/

/-- A receiver between frames has heard the octets since it was last like a new one, and nothing of what
was before. -/
theorem since_ready {past : List Input} {matched : Fin 3}
    (between : (port variant).run ready past = idle matched) :
    ∃ (before : List Input) (octets : List UInt8), past = before ++ octets.map .octet ∧
      (port variant).run ready before = ready ∧ startOctet ∉ octets := by
  -- The induction is on the inputs from the last one; an input that makes a new one ends what is past.
  induction past using List.reverseRecOn generalizing matched with
  | nil => exact ⟨[], [], rfl, rfl, List.not_mem_nil⟩
  | append_singleton past input ih =>
    by_cases new : (port variant).run ready (past ++ [input]) = ready
    · exact ⟨past ++ [input], [], by simp, new, List.not_mem_nil⟩
    have last : ((port variant).take ((port variant).run ready past) input).1 = idle matched := by
      rw [Port.run_append] at between
      exact between
    cases input with
    | reset => exact absurd (Port.run_append _ _ past [.reset]) new
    | octet c =>
      by_cases listening : ∃ matched', (port variant).run ready past = idle matched'
      · obtain ⟨matched', idle⟩ := listening
        obtain ⟨before, octets, rfl, settled, plain⟩ := ih idle
        refine ⟨before, octets ++ [c], by simp, settled, ?_⟩
        rw [List.mem_append, not_or, List.mem_singleton]
        refine ⟨plain, ?_⟩
        rintro rfl
        rw [idle] at last
        cases last
      · rw [not_exists] at listening
        have zero := (feed_deaf variant listening c).fresh matched last
        subst zero
        rw [Port.run_append] at new
        exact absurd last new

theorem feed_calls (before : List Input) {octets : List UInt8} {c : UInt8}
    (settled : (port variant).run ready before = ready) (plain : startOctet ∉ octets ++ [c])
    (report : Except Fault Event) :
    (((port variant).run ready (before ++ octets.map .octet)).feed variant c).2 = some report ↔
      ∃ event, report = .ok event ∧ Calls (octets ++ [c]) event := by
  rw [List.mem_append, not_or, List.mem_singleton] at plain
  obtain ⟨matched, idle, heard⟩ := run_heard variant heard_nil plain.1
  obtain ⟨-, -, -, called⟩ := feedIdle_heard heard c
  rw [Port.run_append, settled, ready, idle, feed_of_ne (Ne.symm plain.2)]
  show (feedIdle matched c).2.map .ok = some report ↔ _
  rw [Option.map_eq_some_iff]
  simp only [called, List.nil_append, eq_comm (a := report), and_comm]

/-- A receiver between frames takes the letters of a probe for one, whatever it heard before. -/
theorem probe_reported (matched : Fin 3) :
    (((port variant).run (idle matched) ((probeFront 2).map .octet)).feed variant probeLetters[2]).2 =
      some (.ok .probe) := by
  match matched with
  | 0 => rfl
  | 1 => rfl
  | 2 => rfl

/-- Octets without a start octet find a receiver between frames if the first of them does. -/
theorem between_run {before : List Input} (settled : (port variant).run ready before = ready)
    {octets : List UInt8} (plain : startOctet ∉ octets) :
    (port variant).Between ((port variant).run ready (before ++ octets.map .octet)) := by
  obtain ⟨matched, idle, -⟩ := run_heard variant heard_nil plain
  rw [between_iff, Port.run_append, settled]
  exact ⟨matched, idle⟩

theorem counted_of_told {past : List Input} {c : UInt8}
    (told : (((port variant).run ready past).feed variant c).2 = some (.ok .probe)) :
    ∃ before, past ++ [.octet c] = before ++ probeLetters.toList.map .octet ∧
      ∀ n < 3, (port variant).Between ((port variant).run ready (before ++ (probeFront n).map .octet)) := by
  have listening : ∃ matched, (port variant).run ready past = idle matched := by
    by_contra deaf
    rw [not_exists] at deaf
    obtain ⟨payload, frame⟩ := (feed_deaf variant deaf c).event _ told
    cases frame
  obtain ⟨matched, idle⟩ := listening
  obtain ⟨before, octets, rfl, settled, plain⟩ := since_ready variant idle
  have plain' : startOctet ∉ octets ++ [c] := by
    rw [List.mem_append, not_or, List.mem_singleton]
    refine ⟨plain, ?_⟩
    rintro rfl
    rw [idle] at told
    cases told
  obtain ⟨event, same, calls⟩ := (feed_calls variant before settled plain' _).mp told
  cases same
  obtain ⟨front, ends⟩ : probeLetters.toList <:+ octets ++ [c] := calls
  refine ⟨before ++ front.map .octet, ?_, ?_⟩
  · have all := congrArg (List.map Input.octet) ends
    simp only [List.map_append, List.map_singleton] at all
    rw [List.append_assoc, List.append_assoc, all]
  · intro n _
    have part : front ++ probeFront n <+: octets ++ [c] := by
      rw [← ends]
      exact (List.prefix_append_right_inj front).mpr (List.take_prefix n _)
    rw [List.append_assoc, ← List.map_append]
    exact between_run variant settled fun mem => plain' (part.mem mem)

theorem told_of_counted {past before : List Input} {c : UInt8}
    (whole : past ++ [.octet c] = before ++ probeLetters.toList.map .octet)
    (between : (port variant).Between ((port variant).run ready before)) :
    (((port variant).run ready past).feed variant c).2 = some (.ok .probe) := by
  obtain ⟨matched, idle⟩ := (between_iff variant _).mp between
  have last : probeLetters.toList.map Input.octet =
      (probeFront 2).map .octet ++ [.octet probeLetters[2]] := rfl
  rw [last, ← List.append_assoc] at whole
  obtain ⟨rfl, same⟩ := List.append_inj' whole rfl
  cases same
  rw [Port.run_append, idle]
  exact probe_reported variant matched

theorem port_listens : (port variant).Listens ready where
  outside octets c report plain := feed_calls variant [] rfl plain report
  inside past c event inFrame told := by
    have busy : ∀ matched, (port variant).run ready past ≠ idle matched := by
      intro matched idle
      rw [idle] at inFrame
      cases inFrame
    exact (feed_deaf variant busy c).event event told
  counted past c := by
    constructor
    · intro told
      exact counted_of_told variant told
    · rintro ⟨before, whole, between⟩
      have first := between 0 (by decide)
      rw [probeFront, List.take_zero, List.map_nil, List.append_nil] at first
      exact told_of_counted variant whole first

end Receiver

/-- **Between frames.** A receiver that is between frames and has read nothing of a probe hears exactly
what it is told there, whether its phases hold data of their own or share their registers; octets in a
frame are nothing of the kind, and count towards nothing that is heard behind it. -/
theorem hears_between_frames (variant : Crc.Variant) :
    (Receiver.port variant).Listens .ready ∧
      ∀ r : Registers, r.phase = .idle → r.probe = 0 → (Registers.port variant).Listens r := by
  have listens := Receiver.port_listens variant
  refine ⟨listens, ?_⟩
  intro r idle unread
  have new : r.StandsFor .ready := by
    cases r
    cases idle
    cases unread
    exact .idle 0
  exact (Registers.port_simulates variant).listens new listens

/-- Registers that hold a number of before hear the probe that begins in one that breaks off. A probe
whose first letter is in a frame is none. -/
theorem broken_probe_heard :
    let left : Registers := { low := 0x02, high := 0x5A }
    let port := Registers.port .xmodem
    left.phase = .idle ∧ left.probe = 0 ∧ startOctet ∉ textBytes "ATATI" ∧
      (port.feed (port.run left ((textBytes "ATAT").map .octet)) 'I'.toUInt8).2 = some (.ok .probe) ∧
      (port.feed (port.run left ((textBytes "SAT").map .octet)) 'I'.toUInt8).2 ≠ some (.ok .probe) := by
  intro left port
  have plain : startOctet ∉ textBytes "ATATI" := by decide
  have listens := (hears_between_frames .xmodem).2 left rfl rfl
  refine ⟨rfl, rfl, plain, ?_, ?_⟩
  · exact (listens.outside (textBytes "ATAT") 'I'.toUInt8 _ plain).mpr
      ⟨.probe, rfl, textBytes "AT", rfl⟩
  · intro told
    obtain ⟨before, whole, between⟩ := (listens.counted _ _).mp told
    have split : [.octet startOctet] ++ probeLetters.toList.map .octet =
        before ++ probeLetters.toList.map .octet := whole
    obtain rfl := List.append_cancel_right split
    have outside := (between 0 (by decide)).1
    cases outside

end VoxelCube.Link
