/-
A receiver in registers. The phases of a receiver can share one set of registers, which no phase owns:
what a number, a payload or a probe left in them stays until something is written over it. Only what a
phase counts on is cleared when it is entered. From outside such a receiver cannot be told from one
whose phases hold data of their own: it reports the same, and stands as the other does.
-/
import VoxelCube.Message.Value
import VoxelCube.Link.Receiver

namespace VoxelCube.Link

/-! ## Receivers from outside -/

/-- What can be done to a receiver. -/
inductive Input where
  | octet (c : UInt8)
  | reset
  deriving DecidableEq, Repr

/-- What can be seen of a receiver at an input: how it stands before it, and what it reports on it. -/
structure Observation where
  inFrame : Bool
  stuck : Bool
  report : Option (Except Fault Event)
  deriving Repr

/-- What a receiver is used through. -/
structure Port (σ : Type) where
  feed : σ → UInt8 → σ × Option (Except Fault Event)
  reset : σ → σ
  isInFrame : σ → Bool
  isStuck : σ → Bool

namespace Port

variable {σ τ : Type} (p : Port σ)

def take (s : σ) : Input → σ × Option (Except Fault Event)
  | .octet c => p.feed s c
  | .reset => (p.reset s, none)

/-- A receiver after inputs. -/
def run (s : σ) (inputs : List Input) : σ := inputs.foldl (fun s input => (p.take s input).1) s

/-- All that can be seen of a receiver while it is given inputs, and once they end. -/
def observe (s : σ) : List Input → List Observation
  | [] => [{ inFrame := p.isInFrame s, stuck := p.isStuck s, report := none }]
  | input :: rest =>
    { inFrame := p.isInFrame s, stuck := p.isStuck s, report := (p.take s input).2 } ::
      observe (p.take s input).1 rest

theorem run_append (s : σ) (inputs more : List Input) :
    p.run s (inputs ++ more) = p.run (p.run s inputs) more :=
  List.foldl_append

/-- Receivers in related states do the same, and come to related states. -/
structure Simulates (p : Port σ) (q : Port τ) (R : σ → τ → Prop) : Prop where
  feed : ∀ {s t}, R s t → ∀ c, R (p.feed s c).1 (q.feed t c).1 ∧ (p.feed s c).2 = (q.feed t c).2
  reset : ∀ {s t}, R s t → R (p.reset s) (q.reset t)
  inFrame : ∀ {s t}, R s t → p.isInFrame s = q.isInFrame t
  stuck : ∀ {s t}, R s t → p.isStuck s = q.isStuck t

namespace Simulates

variable {p} {q : Port τ} {R : σ → τ → Prop} {s : σ} {t : τ}

theorem take (h : p.Simulates q R) (related : R s t) (input : Input) :
    R (p.take s input).1 (q.take t input).1 ∧ (p.take s input).2 = (q.take t input).2 := by
  cases input with
  | octet c => exact h.feed related c
  | reset => exact ⟨h.reset related, rfl⟩

theorem run (h : p.Simulates q R) (related : R s t) (inputs : List Input) :
    R (p.run s inputs) (q.run t inputs) := by
  induction inputs generalizing s t with
  | nil => exact related
  | cons input rest ih => exact ih (h.take related input).1

theorem observe (h : p.Simulates q R) (related : R s t) (inputs : List Input) :
    p.observe s inputs = q.observe t inputs := by
  induction inputs generalizing s t with
  | nil =>
    unfold Port.observe
    rw [h.inFrame related, h.stuck related]
  | cons input rest ih =>
    obtain ⟨after, report⟩ := h.take related input
    unfold Port.observe
    rw [h.inFrame related, h.stuck related, report, ih after]

end Simulates

end Port

/-- A receiver whose phases hold their own data, seen from outside. -/
def Receiver.port (variant : Crc.Variant) : Port Receiver where
  feed := feed variant
  reset _ := ready
  isInFrame := isInFrame
  isStuck := isStuck

/-! ## Registers -/

/-- A letter of the probe, reached by a counter that may be past the last one. -/
theorem probeLetters_eq_some {n : Nat} (inside : n < 3) (c : UInt8) :
    probeLetters[n]? = some c ↔ c = probeLetters[n] := by
  rw [Vector.getElem?_eq_getElem inside, Option.some.injEq]
  exact eq_comm

inductive Phase where
  | idle
  | opening
  | length
  | payload
  | checksum
  | stuck
  deriving DecidableEq, Repr

/-- The registers of a receiver. A number that comes in two bytes passes through `low` and `high`, and
`filled` tells that its low byte is there. -/
structure Registers where
  phase : Phase := .idle
  pair : Hex.PairReader := {}
  low : UInt8 := 0
  high : UInt8 := 0
  filled : Bool := false
  length : UInt16 := 0
  payload : List UInt8 := []
  /-- How many letters of the probe were read. -/
  probe : Nat := 0
  deriving DecidableEq, Repr

namespace Registers

def isStuck (r : Registers) : Bool := r.phase = .stuck

def isInFrame (r : Registers) : Bool := !(r.phase = .idle || r.phase = .stuck)

/-- Clears what a frame in progress needs; a number that was read stays in its registers. -/
def clearPartial (r : Registers) : Registers :=
  { r with pair := {}, filled := false, length := 0, payload := [] }

def reset (r : Registers) : Registers := { r.clearPartial with phase := .idle, probe := 0 }

def fail (r : Registers) (fault : Fault) : Registers × Option (Except Fault Event) :=
  ({ r.clearPartial with phase := .stuck }, some (.error fault))

/-- Takes a byte of a two-byte number, and gives the number if this was its second one. -/
def pushField (r : Registers) (b : UInt8) : Registers × Option UInt16 :=
  if r.filled then
    ({ r with high := b, filled := false }, some (UInt16.ofNat (Word.ofBytes [r.low, b])))
  else ({ r with low := b, filled := true }, none)

def feedIdle (r : Registers) (c : UInt8) : Registers × Option Event :=
  if c = ackOctet then ({ r with probe := 0 }, some .ack)
  else if c = nakOctet then ({ r with probe := 0 }, some .nak)
  else if probeLetters[r.probe]? = some c then
    if r.probe + 1 < 3 then ({ r with probe := r.probe + 1 }, none)
    else ({ r with probe := 0 }, some .probe)
  else ({ r with probe := if probeLetters[0]? = some c then 1 else 0 }, none)

def takeLength (r : Registers) (b : UInt8) : Registers × Option (Except Fault Event) :=
  match r.pushField b with
  | (r, none) => (r, none)
  | (r, some n) => ({ r with length := n, phase := if n = 0 then .checksum else .payload }, none)

def takePayload (r : Registers) (b : UInt8) : Registers × Option (Except Fault Event) :=
  if capacity ≤ r.payload.length then r.fail .overflow
  else
    let r := { r with payload := r.payload ++ [b] }
    (if r.payload.length = r.length.toNat then { r with phase := .checksum } else r, none)

def takeChecksum (variant : Crc.Variant) (r : Registers) (b : UInt8) :
    Registers × Option (Except Fault Event) :=
  match r.pushField b with
  | (r, none) => (r, none)
  | (r, some n) =>
    ({ r.clearPartial with phase := .idle }, some (Receiver.judge variant r.payload n))

/-- Takes a digit, and with the second one of a pair the byte that the pair spells. -/
def feedDigit (take : Registers → UInt8 → Registers × Option (Except Fault Event)) (r : Registers)
    (c : UInt8) : Registers × Option (Except Fault Event) :=
  match r.pair.feed c with
  | (pair, .held) => ({ r with pair }, none)
  | (pair, .invalid) => fail { r with pair } .invalidDigit
  | (pair, .byte b) => take { r with pair } b

def feed (variant : Crc.Variant) (r : Registers) (c : UInt8) :
    Registers × Option (Except Fault Event) :=
  if r.phase = .stuck then (r, none)
  else if c = startOctet then ({ r.clearPartial with phase := .opening, probe := 0 }, none)
  else
    match r.phase with
    | .idle => ((r.feedIdle c).1, (r.feedIdle c).2.map .ok)
    | .opening =>
      if c = openOctet then ({ r with phase := .length }, none)
      else ({ r with phase := .idle }, some (.error .notAPacket))
    | .length => r.feedDigit takeLength c
    | .payload => r.feedDigit takePayload c
    | .checksum => r.feedDigit (takeChecksum variant) c
    | .stuck => (r, none)

/-- A receiver in registers, seen from outside. -/
def port (variant : Crc.Variant) : Port Registers where
  feed := feed variant
  reset := reset
  isInFrame := isInFrame
  isStuck := isStuck

/-! ## What the registers stand for -/

/-- The number in progress. -/
def number (r : Registers) : WordReader where
  low := if r.filled then some r.low else none
  pair := r.pair

/-- The receiver that the registers stand for. What the phase, or one that comes after it, counts on
being clear is clear; the other registers may hold anything. -/
inductive StandsFor : Registers → Receiver → Prop where
  | idle {pair low high filled length payload} (matched : Fin 3) :
    StandsFor { phase := .idle, pair, low, high, filled, length, payload, probe := matched.val }
      (.idle matched)
  | opening {low high length} : StandsFor { phase := .opening, low, high, length } .opening
  | length {pair low high filled length} :
    StandsFor { phase := .length, pair, low, high, filled, length }
      (.length (number { pair, low, filled }))
  | payload {pair low high length payload} :
    StandsFor { phase := .payload, pair, low, high, length, payload }
      (.payload { declared := length, bytes := payload } pair)
  | checksum {pair low high filled length payload} :
    StandsFor { phase := .checksum, pair, low, high, filled, length, payload }
      (.checksum { declared := length, bytes := payload } (number { pair, low, filled }))
  | stuck {pair low high filled length payload probe} :
    StandsFor { phase := .stuck, pair, low, high, filled, length, payload, probe } .stuck

/-- Registers that took something stand for the receiver that took it, and report the same. -/
def Keeps (fed : Registers × Option (Except Fault Event))
    (fed' : Receiver × Option (Except Fault Event)) : Prop :=
  fed.1.StandsFor fed'.1 ∧ fed.2 = fed'.2

theorem fail_keeps (r : Registers) (fault : Fault) :
    Keeps (r.fail fault) (.stuck, some (.error fault)) :=
  ⟨.stuck, rfl⟩

theorem pair_of_byte {pair pair' : Hex.PairReader} {c b : UInt8}
    (h : pair.feed c = (pair', .byte b)) : pair' = {} := by
  unfold Hex.PairReader.feed at h
  split at h <;> cases h
  rfl

/-- A digit of the number in progress is read out of the registers as by a reader of its own. -/
theorem feed_number (r : Registers) (c : UInt8) : r.number.feed c =
    match r.pair.feed c with
    | (pair, .held) => (number { r with pair }, .held)
    | (_, .invalid) => ({}, .invalid)
    | (pair, .byte b) =>
      match pushField { r with pair } b with
      | (r, none) => (r.number, .held)
      | (_, some n) => ({}, .word n) := by
  unfold WordReader.feed
  rw [show r.number.pair = r.pair from rfl]
  rcases r.pair.feed c with ⟨pair, _ | b | _⟩
  · rfl
  · cases filled : r.filled <;> simp [number, pushField, filled]
  · rfl

variable (variant : Crc.Variant)

theorem idle_keeps {r : Registers} {matched : Fin 3} (h : r.StandsFor (.idle matched)) (c : UInt8) :
    Keeps ((r.feedIdle c).1, (r.feedIdle c).2.map .ok)
      (Receiver.feedInside variant (.idle matched) c) := by
  cases h
  have letter (n : Fin 3) : probeLetters[n.val]? = some c ↔ c = probeLetters[n] :=
    probeLetters_eq_some n.isLt c
  simp only [feedIdle, Receiver.feedInside, Receiver.feedIdle, letter]
  split
  · exact ⟨.idle 0, rfl⟩
  split
  · exact ⟨.idle 0, rfl⟩
  split
  · split
    · exact ⟨.idle ⟨matched.val + 1, _⟩, rfl⟩
    · exact ⟨.idle 0, rfl⟩
  · have first : probeLetters[0]? = some c ↔ c = probeLetters[0] := letter 0
    simp only [first]
    by_cases again : c = probeLetters[0]
    · simp only [if_pos again]
      exact ⟨.idle 1, rfl⟩
    · simp only [if_neg again]
      exact ⟨.idle 0, rfl⟩

theorem length_keeps {r : Registers} {digits : WordReader} (h : r.StandsFor (.length digits))
    (c : UInt8) :
    Keeps (r.feedDigit takeLength c) (Receiver.feedInside variant (.length digits) c) := by
  cases h with
  | @length pair low high filled length =>
    simp only [feedDigit, Receiver.feedInside, feed_number]
    rcases fed : pair.feed c with ⟨pair', _ | b | _⟩
    · exact ⟨.length, rfl⟩
    · obtain rfl := pair_of_byte fed
      simp only [takeLength, pushField]
      cases filled with
      | false => exact ⟨.length, rfl⟩
      | true =>
        simp only [↓reduceIte]
        -- the next phase finds its registers clear
        by_cases none : UInt16.ofNat (Word.ofBytes [low, b]) = 0
        · simp only [if_pos none]
          exact ⟨.checksum, rfl⟩
        · simp only [if_neg none]
          exact ⟨.payload, rfl⟩
    · exact fail_keeps _ _

theorem payload_keeps {r : Registers} {part : Partial} {pair : Hex.PairReader}
    (h : r.StandsFor (.payload part pair)) (c : UInt8) :
    Keeps (r.feedDigit takePayload c) (Receiver.feedInside variant (.payload part pair) c) := by
  cases h with
  | @payload pair low high length payload =>
    simp only [feedDigit, Receiver.feedInside]
    rcases fed : pair.feed c with ⟨pair', _ | b | _⟩
    · exact ⟨.payload, rfl⟩
    · obtain rfl := pair_of_byte fed
      simp only [takePayload, Receiver.takePayload]
      by_cases full : capacity ≤ payload.length
      · simp only [if_pos full]
        exact fail_keeps _ _
      · simp only [if_neg full]
        by_cases whole : (payload ++ [b]).length = length.toNat
        · simp only [if_pos whole]
          exact ⟨.checksum, rfl⟩
        · simp only [if_neg whole]
          exact ⟨.payload, rfl⟩
    · exact fail_keeps _ _

theorem checksum_keeps {r : Registers} {part : Partial} {digits : WordReader}
    (h : r.StandsFor (.checksum part digits)) (c : UInt8) :
    Keeps (r.feedDigit (takeChecksum variant) c)
      (Receiver.feedInside variant (.checksum part digits) c) := by
  cases h with
  | @checksum pair low high filled length payload =>
    simp only [feedDigit, Receiver.feedInside, feed_number]
    rcases fed : pair.feed c with ⟨pair', _ | b | _⟩
    · exact ⟨.checksum, rfl⟩
    · obtain rfl := pair_of_byte fed
      simp only [takeChecksum, pushField]
      cases filled with
      | false => exact ⟨.checksum, rfl⟩
      | true => exact ⟨.idle 0, rfl⟩
    · exact fail_keeps _ _

theorem StandsFor.isStuck {r : Registers} {s : Receiver} (h : r.StandsFor s) :
    r.isStuck = s.isStuck := by
  cases h <;> rfl

theorem StandsFor.isInFrame {r : Registers} {s : Receiver} (h : r.StandsFor s) :
    r.isInFrame = s.isInFrame := by
  cases h <;> rfl

/-- An octet is taken by registers as by the receiver that they stand for. -/
theorem feed_keeps {r : Registers} {s : Receiver} (h : r.StandsFor s) (c : UInt8) :
    Keeps (r.feed variant c) (s.feed variant c) := by
  by_cases stuck : r.phase = .stuck
  · rw [feed, if_pos stuck]
    cases h <;> cases stuck
    rw [Receiver.feed, if_neg fun both => Bool.false_ne_true both.2.symm]
    exact ⟨.stuck, rfl⟩
  have free : s.isStuck = false := h.isStuck ▸ decide_eq_false stuck
  by_cases start : c = startOctet
  · rw [feed, if_neg stuck, if_pos start, Receiver.feed, if_pos ⟨start, free⟩]
    exact ⟨.opening, rfl⟩
  have inside : s.feed variant c = s.feedInside variant c := if_neg fun both => start both.1
  rw [feed, if_neg stuck, if_neg start, inside]
  cases h with
  | idle matched => exact idle_keeps variant (.idle matched) c
  | opening =>
    by_cases opened : c = openOctet
    · simp only [Receiver.feedInside, if_pos opened]
      exact ⟨.length, rfl⟩
    · simp only [Receiver.feedInside, if_neg opened]
      exact ⟨.idle 0, rfl⟩
  | length => exact length_keeps variant .length c
  | payload => exact payload_keeps variant .payload c
  | checksum => exact checksum_keeps variant .checksum c
  | stuck => exact absurd rfl stuck

theorem port_simulates : (port variant).Simulates (Receiver.port variant) StandsFor where
  feed h c := feed_keeps variant h c
  reset _ := .idle 0
  inFrame h := h.isInFrame
  stuck h := h.isStuck

end Registers

end VoxelCube.Link
