/-
A receiver in buffers. Its numbers come in through an array of two bytes and its probe is read off an
array of three letters, each through a counter, and a payload grows until it is as long as announced.
Nothing keeps a counter inside its array and the payload short of its length but the way in which the
phases follow one another. What holds in each phase is carried from octet to octet, so no index is ever
out of bounds, and the receiver cannot be told from one that needs no index.
-/
import VoxelCube.Proofs.Link.Registers

namespace VoxelCube.Link

/-- The buffers of a receiver with the counters through which they are reached. -/
structure Buffers where
  phase : Phase := .idle
  pair : Hex.PairReader := {}
  /-- A number that comes in two bytes. -/
  field : Vector UInt8 2 := #v[0, 0]
  /-- How many bytes of the number are there. -/
  count : Nat := 0
  /-- How many payload bytes the frame announced. -/
  length : Nat := 0
  payload : List UInt8 := []
  /-- How many letters of the probe were read. -/
  probe : Nat := 0
  deriving DecidableEq, Repr

namespace Buffers

/-! ## Steps -/

/-- What buffers come to and what is reported; nothing where an index is out of bounds. -/
abbrev Step := Option (Buffers × Option (Except Fault Event))

def isStuck (b : Buffers) : Bool := b.phase = .stuck

def isInFrame (b : Buffers) : Bool := !(b.phase = .idle || b.phase = .stuck)

/-- Clears what a frame in progress needs. -/
def clearPartial (b : Buffers) : Buffers := { b with pair := {}, count := 0, length := 0, payload := [] }

def reset (b : Buffers) : Buffers := { b.clearPartial with phase := .idle, probe := 0 }

def fail (b : Buffers) (fault : Fault) : Step :=
  some ({ b.clearPartial with phase := .stuck }, some (.error fault))

/-- Puts a byte of a two-byte number in its place, and gives the number if both are there. -/
def pushField (b : Buffers) (c : UInt8) : Option (Buffers × Option UInt16) :=
  if inside : b.count < 2 then
    let field := b.field.set b.count c
    if b.count + 1 < 2 then some ({ b with field, count := b.count + 1 }, none)
    else some ({ b with field, count := 0 }, some (UInt16.ofNat (Word.ofBytes field.toList)))
  else none

def feedIdle (b : Buffers) (c : UInt8) : Option (Buffers × Option Event) :=
  if c = ackOctet then some ({ b with probe := 0 }, some .ack)
  else if c = nakOctet then some ({ b with probe := 0 }, some .nak)
  else if inside : b.probe < 3 then
    if c = probeLetters[b.probe] then
      if b.probe + 1 = 3 then some ({ b with probe := 0 }, some .probe)
      else some ({ b with probe := b.probe + 1 }, none)
    else some ({ b with probe := if c = probeLetters[0] then 1 else 0 }, none)
  else none

def takeLength (b : Buffers) (c : UInt8) : Step :=
  match b.pushField c with
  | none => none
  | some (b, none) => some (b, none)
  | some (b, some n) =>
    some ({ b with length := n.toNat, phase := if n.toNat = 0 then .checksum else .payload }, none)

def takePayload (b : Buffers) (c : UInt8) : Step :=
  if capacity ≤ b.payload.length then b.fail .overflow
  else
    let b := { b with payload := b.payload ++ [c] }
    some (if b.payload.length = b.length then { b with phase := .checksum } else b, none)

def takeChecksum (variant : Crc.Variant) (b : Buffers) (c : UInt8) : Step :=
  match b.pushField c with
  | none => none
  | some (b, none) => some (b, none)
  | some (b, some n) =>
    some ({ b.clearPartial with phase := .idle }, some (Receiver.judge variant b.payload n))

/-- Takes a digit, and with the second one of a pair the byte that the pair spells. -/
def feedDigit (take : Buffers → UInt8 → Step) (b : Buffers) (c : UInt8) : Step :=
  match b.pair.feed c with
  | (pair, .held) => some ({ b with pair }, none)
  | (pair, .invalid) => fail { b with pair } .invalidDigit
  | (pair, .byte d) => take { b with pair } d

def feed (variant : Crc.Variant) (b : Buffers) (c : UInt8) : Step :=
  if b.phase = .stuck then some (b, none)
  else if c = startOctet then some ({ b.clearPartial with phase := .opening, probe := 0 }, none)
  else
    match b.phase with
    | .idle => (b.feedIdle c).map fun (b, event) => (b, event.map .ok)
    | .opening =>
      if c = openOctet then some ({ b with phase := .length }, none)
      else some ({ b with phase := .idle }, some (.error .notAPacket))
    | .length => b.feedDigit takeLength c
    | .payload => b.feedDigit takePayload c
    | .checksum => b.feedDigit (takeChecksum variant) c
    | .stuck => some (b, none)

/-- A receiver in buffers, seen from outside; there is none any more once an index was out of bounds. -/
def port (variant : Crc.Variant) : Port (Option Buffers) where
  feed s c :=
    match s.bind fun b => b.feed variant c with
    | some (b, report) => (some b, report)
    | none => (none, none)
  reset s := s.map reset
  isInFrame s := s.any isInFrame
  isStuck s := s.any isStuck

/-! ## Bounds -/

/-- How far the buffers are filled in each phase. -/
def Fits (b : Buffers) : Prop :=
  match b.phase with
  | .idle | .opening | .stuck => b.pair = {} ∧ b.count = 0 ∧ b.payload = [] ∧ b.length = 0
  | .length => b.payload = [] ∧ b.length = 0
  | .payload => b.payload.length < b.length
  | .checksum => b.payload.length = b.length

/-- The counters are inside their arrays, and the payload is within what a frame may have and no longer
than announced. -/
structure InBounds (b : Buffers) : Prop where
  count : b.count ≤ 1
  probe : b.probe ≤ 2
  length : b.length < Word.limit 2
  room : b.payload.length ≤ capacity
  fits : b.Fits

/-- A payload does not become longer than announced without being as long first. -/
theorem InBounds.within {b : Buffers} (h : b.InBounds) : b.payload.length ≤ b.length := by
  have fits := h.fits
  unfold Fits at fits
  split at fits
  · simp [fits]
  · simp [fits]
  · simp [fits]
  · simp [fits]
  · exact Nat.le_of_lt fits
  · exact Nat.le_of_eq fits

/-- The registers that hold the same. -/
def registers (b : Buffers) : Registers where
  phase := b.phase
  pair := b.pair
  low := b.field[0]
  high := b.field[1]
  filled := b.count = 1
  length := UInt16.ofNat b.length
  payload := b.payload
  probe := b.probe

/-- A step in bounds, and the registers take the same step. -/
def Follows (step : Step) (step' : Registers × Option (Except Fault Event)) : Prop :=
  ∃ b report, step = some (b, report) ∧ b.InBounds ∧ step' = (b.registers, report)

variable {b : Buffers}

/-- Buffers are in bounds once they are cleared, in each phase that asks for that. -/
theorem clear_inBounds (b : Buffers) (letters : b.probe ≤ 2) {phase : Phase}
    (outside : phase = .idle ∨ phase = .opening ∨ phase = .stuck) :
    ({ b.clearPartial with phase } : Buffers).InBounds := by
  refine ⟨Nat.zero_le 1, letters, (by decide : 0 < Word.limit 2), Nat.zero_le capacity, ?_⟩
  rcases outside with rfl | rfl | rfl <;> exact ⟨rfl, rfl, rfl, rfl⟩

theorem fail_follows (h : b.InBounds) (fault : Fault) :
    Follows (b.fail fault) (b.registers.fail fault) :=
  ⟨_, _, rfl, clear_inBounds b h.probe (.inr (.inr rfl)), rfl⟩

/-! ## Numbers and payload -/

theorem toList_set_second (field : Vector UInt8 2) (c : UInt8) :
    (field.set 1 c).toList = [field[0], c] := by
  match field with
  | ⟨⟨[_, _]⟩, _⟩ => rfl

/-- A byte of a number is put in its place, and the counter stays inside. -/
theorem pushField_follows (inside : b.count ≤ 1) (c : UInt8) :
    ∃ field count n, b.pushField c = some ({ b with field, count }, n) ∧ count ≤ 1 ∧
      b.registers.pushField c = (registers { b with field, count }, n) := by
  rcases Nat.le_one_iff_eq_zero_or_eq_one.mp inside with first | second
  · refine ⟨b.field.set 0 c, 1, none, ?_, Nat.le_refl 1, ?_⟩
    · simp [pushField, first]
    · simp [Registers.pushField, registers, first]
  · refine ⟨b.field.set 1 c, 0, some (UInt16.ofNat (Word.ofBytes [b.field[0], c])), ?_,
      Nat.zero_le 1, ?_⟩
    · simp [pushField, second, toList_set_second]
    · simp [Registers.pushField, registers, second]

theorem takeLength_follows (h : b.InBounds) (phase : b.phase = .length) (c : UInt8) :
    Follows (b.takeLength c) (b.registers.takeLength c) := by
  obtain ⟨field, count, n, pushed, inside, pushed'⟩ := pushField_follows h.count c
  have fits := h.fits
  simp only [Fits, phase] at fits
  simp only [takeLength, Registers.takeLength, pushed, pushed']
  cases n with
  | none =>
    refine ⟨_, _, rfl, ⟨inside, h.probe, h.length, h.room, ?_⟩, rfl⟩
    simp only [Fits, phase]
    exact fits
  | some n =>
    refine ⟨_, _, rfl, ⟨inside, h.probe, n.toNat_lt, h.room, ?_⟩, ?_⟩
    · -- the payload is empty, so that the checksum follows if none is announced
      by_cases none : n.toNat = 0
      · simp [Fits, none, fits]
      · simp only [Fits, if_neg none, fits]
        exact Nat.pos_of_ne_zero none
    · have none : n.toNat = 0 ↔ n = 0 := by
        rw [← UInt16.toNat_inj]
        rfl
      simp [registers, none]

theorem takePayload_follows (h : b.InBounds) (phase : b.phase = .payload) (c : UInt8) :
    Follows (b.takePayload c) (b.registers.takePayload c) := by
  have short := h.fits
  simp only [Fits, phase] at short
  have grown : (b.payload ++ [c]).length = b.payload.length + 1 := by simp
  have length : (UInt16.ofNat b.length).toNat = b.length := UInt16.toNat_ofNat_of_lt' h.length
  unfold takePayload Registers.takePayload
  by_cases full : capacity ≤ b.payload.length
  · rw [if_pos full, if_pos (show capacity ≤ b.registers.payload.length from full)]
    exact fail_follows h .overflow
  rw [if_neg full, if_neg (show ¬capacity ≤ b.registers.payload.length from full)]
  have room : (b.payload ++ [c]).length ≤ capacity := by omega
  by_cases whole : (b.payload ++ [c]).length = b.length
  · simp only [if_pos whole]
    refine ⟨_, _, rfl, ⟨h.count, h.probe, h.length, room, whole⟩, ?_⟩
    simp only [registers, length, if_pos whole]
  · simp only [if_neg whole]
    -- one byte more than fewer than announced is not more than announced
    have short' : (b.payload ++ [c]).length < b.length := by omega
    refine ⟨_, _, rfl, ⟨h.count, h.probe, h.length, room, ?_⟩, ?_⟩
    · simp only [Fits, phase]
      exact short'
    · simp only [registers, length, if_neg whole]

theorem takeChecksum_follows (variant : Crc.Variant) (h : b.InBounds) (phase : b.phase = .checksum)
    (c : UInt8) : Follows (b.takeChecksum variant c) (b.registers.takeChecksum variant c) := by
  obtain ⟨field, count, n, pushed, inside, pushed'⟩ := pushField_follows h.count c
  have fits := h.fits
  simp only [Fits, phase] at fits
  simp only [takeChecksum, Registers.takeChecksum, pushed, pushed']
  cases n with
  | none =>
    refine ⟨_, _, rfl, ⟨inside, h.probe, h.length, h.room, ?_⟩, rfl⟩
    simp only [Fits, phase]
    exact fits
  | some n =>
    exact ⟨_, _, rfl, clear_inBounds { b with field, count } h.probe (.inl rfl), rfl⟩

/-! ## Octets -/

theorem feedDigit_follows {take : Buffers → UInt8 → Step}
    {take' : Registers → UInt8 → Registers × Option (Except Fault Event)} (h : b.InBounds)
    (reads : b.phase = .length ∨ b.phase = .payload ∨ b.phase = .checksum)
    (taken : ∀ {b' : Buffers}, b'.InBounds → b'.phase = b.phase → ∀ d,
      Follows (take b' d) (take' b'.registers d)) (c : UInt8) :
    Follows (b.feedDigit take c) (b.registers.feedDigit take' c) := by
  -- the pair in progress is no part of what the phase counts on
  have withPair (pair : Hex.PairReader) : ({ b with pair } : Buffers).InBounds := by
    refine ⟨h.count, h.probe, h.length, h.room, ?_⟩
    have fits := h.fits
    unfold Fits at fits ⊢
    rcases reads with phase | phase | phase <;> simp only [phase] at fits ⊢ <;> exact fits
  unfold feedDigit Registers.feedDigit
  rw [show b.registers.pair = b.pair from rfl]
  rcases b.pair.feed c with ⟨pair, held | d | invalid⟩
  · exact ⟨_, _, rfl, withPair pair, rfl⟩
  · exact taken (withPair pair) rfl d
  · exact fail_follows (withPair pair) .invalidDigit

theorem feedIdle_follows (h : b.InBounds) (c : UInt8) :
    Follows ((b.feedIdle c).map fun (b, event) => (b, event.map .ok))
      ((b.registers.feedIdle c).1, (b.registers.feedIdle c).2.map .ok) := by
  have withProbe {probe : Nat} (small : probe ≤ 2) : ({ b with probe } : Buffers).InBounds :=
    ⟨h.count, small, h.length, h.room, h.fits⟩
  have inside : b.probe < 3 := Nat.lt_succ_of_le h.probe
  have letter := probeLetters_eq_some inside c
  have first := probeLetters_eq_some (by decide : 0 < 3) c
  unfold feedIdle Registers.feedIdle
  rw [show b.registers.probe = b.probe from rfl]
  simp only [letter, first, dif_pos inside]
  by_cases ack : c = ackOctet
  · simp only [if_pos ack]
    exact ⟨_, _, rfl, withProbe (Nat.zero_le 2), rfl⟩
  simp only [if_neg ack]
  by_cases nak : c = nakOctet
  · simp only [if_pos nak]
    exact ⟨_, _, rfl, withProbe (Nat.zero_le 2), rfl⟩
  simp only [if_neg nak]
  by_cases probed : c = probeLetters[b.probe]
  · simp only [if_pos probed]
    by_cases all : b.probe + 1 = 3
    · simp only [if_pos all, if_neg (show ¬b.probe + 1 < 3 by omega)]
      exact ⟨_, _, rfl, withProbe (Nat.zero_le 2), rfl⟩
    · simp only [if_neg all, if_pos (show b.probe + 1 < 3 by omega)]
      exact ⟨_, _, rfl, withProbe (show b.probe + 1 ≤ 2 by omega), rfl⟩
  · simp only [if_neg probed]
    refine ⟨_, _, rfl, withProbe ?_, rfl⟩
    split <;> decide

/-- Buffers in bounds take an octet without an index out of bounds, and are in bounds again; registers
that hold the same take it in the same way. -/
theorem feed_follows (variant : Crc.Variant) (h : b.InBounds) (c : UInt8) :
    Follows (b.feed variant c) (b.registers.feed variant c) := by
  unfold feed Registers.feed
  rw [show b.registers.phase = b.phase from rfl]
  by_cases stuck : b.phase = .stuck
  · simp only [if_pos stuck]
    exact ⟨_, _, rfl, h, rfl⟩
  simp only [if_neg stuck]
  by_cases start : c = startOctet
  · simp only [if_pos start]
    exact ⟨_, _, rfl, clear_inBounds { b with probe := 0 } (Nat.zero_le 2) (.inr (.inl rfl)), rfl⟩
  simp only [if_neg start]
  cases phase : b.phase with
  | idle => exact feedIdle_follows h c
  | opening =>
    have fits := h.fits
    simp only [Fits, phase] at fits
    by_cases opened : c = openOctet
    · simp only [if_pos opened]
      exact ⟨_, _, rfl, ⟨h.count, h.probe, h.length, h.room, fits.2.2⟩, rfl⟩
    · simp only [if_neg opened]
      exact ⟨_, _, rfl, ⟨h.count, h.probe, h.length, h.room, fits⟩, rfl⟩
  | length =>
    refine feedDigit_follows h (.inl phase) ?_ c
    intro b' inBounds same d
    exact takeLength_follows inBounds (same.trans phase) d
  | payload =>
    refine feedDigit_follows h (.inr (.inl phase)) ?_ c
    intro b' inBounds same d
    exact takePayload_follows inBounds (same.trans phase) d
  | checksum =>
    refine feedDigit_follows h (.inr (.inr phase)) ?_ c
    intro b' inBounds same d
    exact takeChecksum_follows variant inBounds (same.trans phase) d
  | stuck => exact absurd phase stuck

/-! ## Runs -/

/-- There are buffers, they are in bounds, and they hold what the registers hold. -/
def Holds (s : Option Buffers) (r : Registers) : Prop :=
  ∃ b, s = some b ∧ b.InBounds ∧ b.registers = r

theorem holds_new : Holds (some {}) {} :=
  ⟨{}, rfl, clear_inBounds {} (Nat.zero_le 2) (.inl rfl), rfl⟩

theorem port_simulates (variant : Crc.Variant) :
    (port variant).Simulates (Registers.port variant) Holds where
  feed := by
    rintro _ _ ⟨b, rfl, h, rfl⟩ c
    obtain ⟨b', report, fed, h', fed'⟩ := feed_follows variant h c
    have here : (port variant).feed (some b) c = (some b', report) := by
      simp only [port, Option.bind_some, fed]
    have there : (Registers.port variant).feed b.registers c = (b'.registers, report) := fed'
    rw [here, there]
    exact ⟨⟨b', rfl, h', rfl⟩, rfl⟩
  reset := by
    rintro _ _ ⟨b, rfl, h, rfl⟩
    exact ⟨b.reset, rfl, clear_inBounds { b with probe := 0 } (Nat.zero_le 2) (.inl rfl), rfl⟩
  inFrame := by
    rintro _ _ ⟨b, rfl, h, rfl⟩
    rfl
  stuck := by
    rintro _ _ ⟨b, rfl, h, rfl⟩
    rfl

end Buffers

/-- **In bounds.** Whatever octets and resets a new receiver in buffers is given, no index is ever out of
bounds: its counters stay inside their arrays, and its buffers are filled as its phase says. The payload
is never longer than announced, so it is not passed by where it is as long. And it cannot be told from a
receiver whose phases hold data of their own. -/
theorem buffers_stay_in_bounds (variant : Crc.Variant) (inputs : List Input) :
    (∃ b, (Buffers.port variant).run (some {}) inputs = some b ∧ b.InBounds ∧
      b.payload.length ≤ b.length) ∧
      (Buffers.port variant).observe (some {}) inputs =
        (Receiver.port variant).observe .ready inputs := by
  have simulates := Buffers.port_simulates variant
  have new : Registers.StandsFor {} .ready := .idle 0
  constructor
  · obtain ⟨b, there, inBounds, -⟩ := simulates.run Buffers.holds_new inputs
    exact ⟨b, there, inBounds, inBounds.within⟩
  · calc (Buffers.port variant).observe (some {}) inputs
      _ = (Registers.port variant).observe {} inputs := simulates.observe Buffers.holds_new inputs
      _ = (Receiver.port variant).observe .ready inputs :=
        (Registers.port_simulates variant).observe new inputs

/-- A counter that is not reset between two numbers is soon outside. -/
example : ({ phase := .length, pair := { high := some 0 }, count := 2 } : Buffers).feed .xmodem
    '0'.toUInt8 = none := by
  decide

end VoxelCube.Link
