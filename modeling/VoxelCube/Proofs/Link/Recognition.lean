/-
What the receiver recognises. Fed byte by byte and reset after the faults that need it, a receiver
reports the frame of a payload on a byte exactly when the bytes up to it end with the payload on the
wire and the payload fits a frame. Soundness carries the invariant that the digits a receiver holds
in a frame are the last bytes it was fed; completeness runs it over a wire from any state.
-/
import VoxelCube.Proofs.Link.Digits

namespace VoxelCube.Link

namespace Receiver

/-! ## The text of a frame in progress -/

/-- A frame in progress up to its payload. -/
def heading (part : Partial) : List UInt8 :=
  [startOctet, openOctet] ++ Hex.encode (Word.toBytes 2 part.declared.toNat) ++ Hex.encode part.bytes

/-- The part of a frame that a receiver has read, from its start octet on. -/
def text : Receiver → List UInt8
  | idle _ | stuck => []
  | opening => [startOctet]
  | length digits => [startOctet, openOctet] ++ digits.text
  | payload part pair => heading part ++ pair.text
  | checksum part digits => heading part ++ digits.text

theorem text_payload_fresh (part : Partial) : text (payload part {}) = heading part := by
  simp [text, Hex.PairReader.text]

theorem text_checksum_fresh (part : Partial) : text (checksum part {}) = heading part := by
  simp [text, WordReader.text, Hex.PairReader.text]

/-- A receiver inside a payload is short of the announced length; a receiver in a checksum has the
announced length, and it fits a frame. No receiver is stuck that is reset when it has to be. -/
def WF : Receiver → Prop
  | payload part _ => part.bytes.length < part.declared.toNat
  | checksum part _ => part.bytes.length = part.declared.toNat ∧ part.bytes.length ≤ capacity
  | stuck => False
  | _ => True

/-- A receiver after one more octet, reset where the fault that it reports needs it. -/
def next (variant : Crc.Variant) (r : Receiver) (c : UInt8) : Receiver :=
  match r.feed variant c with
  | (r, some (.error fault)) => if fault.needsReset then ready else r
  | (r, _) => r

/-- A receiver after more octets, reset whenever it has to be. -/
def after (variant : Crc.Variant) (r : Receiver) (octets : List UInt8) : Receiver :=
  octets.foldl (next variant) r

theorem after_append (variant : Crc.Variant) (r : Receiver) (a b : List UInt8) :
    after variant r (a ++ b) = after variant (after variant r a) b :=
  List.foldl_append

/-- The report of a receiver on an octet is a frame. -/
def Reports (variant : Crc.Variant) (r : Receiver) (c : UInt8) (p : List UInt8) : Prop :=
  (r.feed variant c).2 = some (.ok (.frame p))

theorem feed_start {variant : Crc.Variant} {r : Receiver} (h : r.WF) :
    r.feed variant startOctet = (opening, none) := by
  cases r with
  | stuck => exact h.elim
  | _ => rfl

theorem feed_of_ne {variant : Crc.Variant} {r : Receiver} {c : UInt8} (h : c ≠ startOctet) :
    r.feed variant c = r.feedInside variant c := by
  unfold feed
  rw [if_neg fun both => h both.1]

/-! ## Soundness -/

/-- What a receiver made of the last of the octets `seen` agrees with them: the text that it holds is
their end, it needs a reset or is well formed, and a frame that it reports is all of them. -/
structure Sound (variant : Crc.Variant) (seen : List UInt8)
    (fed : Receiver × Option (Except Fault Event)) : Prop where
  wf : fed.1.WF ∨ ∃ fault, fed.2 = some (.error fault) ∧ fault.needsReset = true
  text : fed.1.text <:+ seen
  frame : ∀ p, fed.2 = some (.ok (.frame p)) → p.length ≤ capacity ∧ wire variant p = seen

theorem sound_invalid (variant : Crc.Variant) (seen : List UInt8) :
    Sound variant seen (stuck, some (.error .invalidDigit)) :=
  ⟨.inr ⟨_, rfl, rfl⟩, List.nil_suffix, fun _ h => by cases h⟩

theorem sound_held {variant : Crc.Variant} {seen : List UInt8} {r : Receiver} (wf : r.WF)
    (h : r.text <:+ seen) : Sound variant seen (r, none) :=
  ⟨.inl wf, h, fun _ h => by cases h⟩

theorem feedIdle_sound (variant : Crc.Variant) (matched : Fin 3) (c : UInt8) :
    Sound variant [c] (feedInside variant (idle matched) c) := by
  simp only [feedInside, feedIdle]
  split
  · exact ⟨.inl trivial, List.nil_suffix, fun p h => by cases h⟩
  · split
    · exact ⟨.inl trivial, List.nil_suffix, fun p h => by cases h⟩
    · split
      · split
        · exact sound_held trivial List.nil_suffix
        · exact ⟨.inl trivial, List.nil_suffix, fun p h => by cases h⟩
      · exact sound_held trivial List.nil_suffix

theorem feedOpening_sound (variant : Crc.Variant) (c : UInt8) :
    Sound variant [startOctet, c] (feedInside variant opening c) := by
  by_cases opened : c = openOctet
  · subst opened
    exact sound_held trivial (List.suffix_refl _)
  · simp only [feedInside, if_neg opened]
    exact ⟨.inl trivial, List.nil_suffix, fun p h => by cases h⟩

theorem feedLength_sound (variant : Crc.Variant) (digits : WordReader) (c : UInt8) :
    Sound variant ([startOctet, openOctet] ++ digits.text ++ [c])
      (feedInside variant (length digits) c) := by
  rcases fed : digits.feed c with ⟨digits', held | n | invalid⟩
  · simp only [feedInside, fed]
    refine sound_held trivial ?_
    simp [text, WordReader.text_feed_held fed]
  · have number := WordReader.text_feed_word fed
    simp only [feedInside, fed]
    have start : heading { declared := n } = [startOctet, openOctet] ++ digits.text ++ [c] := by
      simp [heading, number]
    rw [← start]
    by_cases zero : n = 0
    · rw [if_pos zero]
      refine sound_held ⟨?_, Nat.zero_le _⟩ (text_checksum_fresh _ ▸ List.suffix_refl _)
      rw [zero]; rfl
    · rw [if_neg zero]
      refine sound_held ?_ (text_payload_fresh _ ▸ List.suffix_refl _)
      exact Nat.pos_of_ne_zero fun none => zero (UInt16.toNat_inj.mp none)
  · simp only [feedInside, fed]
    exact sound_invalid variant _

theorem heading_push (part : Partial) (b : UInt8) :
    heading { part with bytes := part.bytes ++ [b] } = heading part ++ Hex.pair b := by
  simp [heading, Hex.encode]

theorem takePayload_sound (variant : Crc.Variant) {part : Partial} (b : UInt8)
    (h : part.bytes.length < part.declared.toNat) : Sound variant (heading part ++ Hex.pair b)
      ((takePayload part b).1, (takePayload part b).2.map .error) := by
  unfold takePayload
  by_cases full : capacity ≤ part.bytes.length
  · rw [if_pos full]
    exact ⟨.inr ⟨_, rfl, rfl⟩, List.nil_suffix, fun _ h => by cases h⟩
  · rw [if_neg full]
    have grown : (part.bytes ++ [b]).length = part.bytes.length + 1 := by simp
    have room : (part.bytes ++ [b]).length ≤ capacity := by omega
    rw [← heading_push]
    by_cases whole : (part.bytes ++ [b]).length = part.declared.toNat
    · simp only [if_pos whole]
      exact sound_held ⟨whole, room⟩ (text_checksum_fresh _ ▸ List.suffix_refl _)
    · simp only [if_neg whole]
      have short : (part.bytes ++ [b]).length < part.declared.toNat := by omega
      exact sound_held short (text_payload_fresh _ ▸ List.suffix_refl _)

theorem feedPayload_sound (variant : Crc.Variant) {part : Partial} (pair : Hex.PairReader) (c : UInt8)
    (h : part.bytes.length < part.declared.toNat) :
    Sound variant (heading part ++ pair.text ++ [c]) (feedInside variant (payload part pair) c) := by
  rcases fed : pair.feed c with ⟨pair', held | b | invalid⟩
  · simp only [feedInside, fed]
    refine sound_held h ?_
    simp [text, Hex.PairReader.text_feed_held fed]
  · simp only [feedInside, fed]
    rw [List.append_assoc, ← (Hex.PairReader.text_feed_byte fed).2]
    exact takePayload_sound variant b h
  · simp only [feedInside, fed]
    exact sound_invalid variant _

theorem wire_eq_heading (variant : Crc.Variant) {part : Partial}
    (whole : part.bytes.length = part.declared.toNat) : wire variant part.bytes =
      heading part ++ Hex.encode (Word.toBytes 2 (Crc.checksum variant part.bytes).toNat) := by
  simp only [wire, heading, whole]

theorem feedChecksum_sound (variant : Crc.Variant) {part : Partial} (digits : WordReader) (c : UInt8)
    (whole : part.bytes.length = part.declared.toNat) (fits : part.bytes.length ≤ capacity) :
    Sound variant (heading part ++ digits.text ++ [c])
      (feedInside variant (checksum part digits) c) := by
  rcases fed : digits.feed c with ⟨digits', held | n | invalid⟩
  · simp only [feedInside, fed]
    refine sound_held ⟨whole, fits⟩ ?_
    simp [text, WordReader.text_feed_held fed]
  · simp only [feedInside, fed]
    refine ⟨.inl trivial, List.nil_suffix, fun p reported => ?_⟩
    simp only [judge] at reported
    split at reported <;> cases reported
    rename_i good
    refine ⟨fits, ?_⟩
    rw [wire_eq_heading variant whole, ← good, WordReader.text_feed_word fed, List.append_assoc]
  · simp only [feedInside, fed]
    exact sound_invalid variant _

/-- A well-formed receiver makes of an octet what the text that it holds and the octet say. -/
theorem feed_sound (variant : Crc.Variant) {r : Receiver} (h : r.WF) (c : UInt8) :
    Sound variant (r.text ++ [c]) (r.feed variant c) := by
  by_cases start : c = startOctet
  · rw [start, feed_start h]
    exact sound_held trivial (List.suffix_append _ _)
  · rw [feed_of_ne start]
    match r, h with
    | idle matched, _ => exact feedIdle_sound variant matched c
    | opening, _ => exact feedOpening_sound variant c
    | length digits, _ => exact feedLength_sound variant digits c
    | payload part pair, short => exact feedPayload_sound variant pair c short
    | checksum part digits, ⟨whole, fits⟩ => exact feedChecksum_sound variant digits c whole fits

/-- A receiver that is reset when it has to be stays well formed and goes on holding the last octets
that it was fed. -/
theorem next_sound (variant : Crc.Variant) {r : Receiver} (h : r.WF) (c : UInt8) :
    (next variant r c).WF ∧ (next variant r c).text <:+ r.text ++ [c] := by
  have sound := feed_sound variant h c
  unfold next
  split
  · rename_i r' fault fed
    rw [fed] at sound
    split
    · exact ⟨trivial, List.nil_suffix⟩
    · rename_i kept
      refine ⟨sound.wf.resolve_right ?_, sound.text⟩
      rintro ⟨fault', same, reset⟩
      cases same
      exact kept reset
  · rename_i r' report notFault fed
    rw [fed] at sound
    refine ⟨sound.wf.resolve_right ?_, sound.text⟩
    rintro ⟨fault, faulted, -⟩
    exact notFault fault faulted

theorem after_sound (variant : Crc.Variant) {r : Receiver} (h : r.WF) (octets : List UInt8) :
    (after variant r octets).WF ∧ (after variant r octets).text <:+ r.text ++ octets := by
  -- The induction is on the octets from the front; the text before them grows by the octet taken.
  induction octets generalizing r with
  | nil => exact ⟨h, by simp [after]⟩
  | cons c rest ih =>
    obtain ⟨wf, grown⟩ := next_sound variant h c
    obtain ⟨wf', held⟩ := ih wf
    refine ⟨wf', held.trans ?_⟩
    obtain ⟨front, split⟩ := grown
    exact ⟨front, by rw [← List.append_assoc, split, List.append_assoc]; rfl⟩

/-! ## Completeness -/

theorem next_held {variant : Crc.Variant} {r r' : Receiver} {c : UInt8}
    (h : r.feed variant c = (r', none)) : next variant r c = r' := by
  simp [next, h]

theorem after_opening {variant : Crc.Variant} {r : Receiver} (h : r.WF) :
    after variant r [startOctet, openOctet] = length {} := by
  have opened : next variant r startOctet = opening := next_held (feed_start h)
  show next variant (next variant r startOctet) openOctet = length {}
  rw [opened]
  rfl

/-- Digits that a word reader holds leave a receiver where it is, if it is one that reads a number. -/
theorem after_held {variant : Crc.Variant} (reading : WordReader → Receiver)
    (holds : ∀ {r r' c}, r.feed c = (r', .held) → feedInside variant (reading r) c = (reading r', none))
    {r r' : WordReader} {front : List UInt8} (h : r.Held front r') :
    after variant (reading r) front = reading r' := by
  induction h with
  | nil => rfl
  | cons plain fed _ ih =>
    rw [← ih]
    show after variant (next variant _ _) _ = _
    rw [next_held (by rw [feed_of_ne plain, holds fed])]

theorem after_length (variant : Crc.Variant) (n : UInt16) :
    after variant (length {}) (Hex.encode (Word.toBytes 2 n.toNat)) =
      if n = 0 then checksum { declared := n } {} else payload { declared := n } {} := by
  obtain ⟨front, last, r, digits, plain, held, word⟩ := WordReader.feed_digits n
  rw [digits, after_append, after_held length (fun fed => by simp [feedInside, fed]) held]
  exact next_held (by rw [feed_of_ne plain]; simp [feedInside, word])

/-- The two digits of a payload byte that fits a frame add it to the payload. -/
theorem after_pair (variant : Crc.Variant) {part : Partial} (b : UInt8)
    (room : part.bytes.length < capacity) :
    after variant (payload part {}) (Hex.pair b) = (takePayload part b).1 := by
  obtain ⟨r, first, second⟩ := Hex.PairReader.feed_pair b
  have s₁ : next variant (payload part {}) (Hex.digit (b >>> 4)) = payload part r :=
    next_held (by rw [feed_of_ne (Hex.digit_ne_start _)]; simp [feedInside, first])
  have taken : (takePayload part b).2 = none := by
    unfold takePayload
    rw [if_neg (Nat.not_le.mpr room)]
    dsimp only
    split <;> rfl
  show next variant (next variant _ (Hex.digit (b >>> 4))) (Hex.digit b) = _
  rw [s₁]
  exact next_held (by
    rw [feed_of_ne (Hex.digit_ne_start _)]
    simp only [feedInside, second, taken, Option.map_none])

theorem after_payload (variant : Crc.Variant) (part : Partial) {bytes : List UInt8}
    (more : bytes ≠ []) (whole : part.bytes.length + bytes.length = part.declared.toNat)
    (fits : part.declared.toNat ≤ capacity) :
    after variant (payload part {}) (Hex.encode bytes) =
      checksum { part with bytes := part.bytes ++ bytes } {} := by
  -- The induction is on the bytes to come; those that are in wait in the receiver.
  induction bytes generalizing part with
  | nil => exact absurd rfl more
  | cons b rest ih =>
    simp only [List.length_cons] at whole
    have split : Hex.encode (b :: rest) = Hex.pair b ++ Hex.encode rest := rfl
    have room : part.bytes.length < capacity := by omega
    have grown : (part.bytes ++ [b]).length = part.bytes.length + 1 := by simp
    rw [split, after_append, after_pair variant b room]
    unfold takePayload
    rw [if_neg (Nat.not_le.mpr room)]
    by_cases last : rest = []
    · subst last
      simp only [List.length_nil] at whole
      simp only [if_pos (show (part.bytes ++ [b]).length = part.declared.toNat by omega)]
      rfl
    · have left : rest.length ≠ 0 := fun none => last (List.eq_nil_of_length_eq_zero none)
      simp only [if_neg (show (part.bytes ++ [b]).length ≠ part.declared.toNat by omega)]
      have all : (part.bytes ++ [b]).length + rest.length = part.declared.toNat := by omega
      rw [ih { part with bytes := part.bytes ++ [b] } last all fits]
      simp

/-- A receiver at the checksum reports the frame on the last of the checksum's digits. -/
theorem reports_checksum (variant : Crc.Variant) (part : Partial) :
    ∃ front last, Hex.encode (Word.toBytes 2 (Crc.checksum variant part.bytes).toNat) =
        front ++ [last] ∧
      Reports variant (after variant (checksum part {}) front) last part.bytes := by
  obtain ⟨front, last, r, digits, plain, held, word⟩ :=
    WordReader.feed_digits (Crc.checksum variant part.bytes)
  refine ⟨front, last, digits, ?_⟩
  rw [after_held (checksum part) (fun fed => by simp [feedInside, fed]) held]
  unfold Reports
  rw [feed_of_ne plain]
  simp [feedInside, word, judge]

/-- A receiver reports the frame of a payload that fits on the last octet of its wire, whatever it was
in the middle of before. -/
theorem reports_wire (variant : Crc.Variant) {r : Receiver} (h : r.WF) {p : List UInt8}
    (fits : p.length ≤ capacity) :
    ∃ front last, wire variant p = front ++ [last] ∧ Reports variant (after variant r front) last p := by
  have small : p.length < 65536 := by unfold capacity at fits; omega
  have declared : (UInt16.ofNat p.length).toNat = p.length := UInt16.toNat_ofNat_of_lt' small
  obtain ⟨digits, last, checksum', reported⟩ :=
    reports_checksum variant { declared := UInt16.ofNat p.length, bytes := p }
  have upToChecksum : after variant r ([startOctet, openOctet] ++
      Hex.encode (Word.toBytes 2 p.length) ++ Hex.encode p) =
        checksum { declared := UInt16.ofNat p.length, bytes := p } {} := by
    rw [after_append, after_append, after_opening h]
    have length := after_length variant (UInt16.ofNat p.length)
    rw [declared] at length
    rw [length]
    by_cases empty : p = []
    · subst empty; rfl
    · have some : UInt16.ofNat p.length ≠ 0 := by
        intro zero
        rw [← UInt16.toNat_inj, declared] at zero
        exact empty (List.eq_nil_of_length_eq_zero zero)
      have whole : 0 + p.length = (UInt16.ofNat p.length).toNat := by omega
      have room : (UInt16.ofNat p.length).toNat ≤ capacity := by omega
      rw [if_neg some, after_payload variant { declared := UInt16.ofNat p.length } empty whole room]
      rfl
  refine ⟨[startOctet, openOctet] ++ Hex.encode (Word.toBytes 2 p.length) ++ Hex.encode p ++ digits,
    last, ?_, ?_⟩
  · simp only [wire] at checksum' ⊢
    rw [checksum', List.append_assoc _ digits]
  · rw [after_append, upToChecksum]
    exact reported

/-! ## Both ways -/

/-- A receiver that began ready reports a frame on an octet exactly when the octets up to it end with
the frame's payload on the wire and the payload fits. -/
theorem reports_iff (variant : Crc.Variant) (octets : List UInt8) (c : UInt8) (p : List UInt8) :
    Reports variant (after variant ready octets) c p ↔
      p.length ≤ capacity ∧ wire variant p <:+ octets ++ [c] := by
  have start : ready.WF := trivial
  constructor
  · intro reported
    obtain ⟨wf, held⟩ := after_sound variant start octets
    obtain ⟨fits, whole⟩ := (feed_sound variant wf c).frame p reported
    refine ⟨fits, whole ▸ ?_⟩
    obtain ⟨front, split⟩ := held
    exact ⟨front, by rw [← List.append_assoc, split]; rfl⟩
  · rintro ⟨fits, before, split⟩
    obtain ⟨wf, -⟩ := after_sound variant start before
    obtain ⟨front, last, frame, reported⟩ := reports_wire variant wf fits
    rw [frame, ← List.append_assoc] at split
    obtain ⟨rfl, same⟩ := List.append_inj' split rfl
    cases same
    rw [after_append]
    exact reported

end Receiver

end VoxelCube.Link
