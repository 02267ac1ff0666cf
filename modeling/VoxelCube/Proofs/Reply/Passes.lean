/-
The two passes of a reply. The counting pass leaves the device and the world as they are, whatever the
message asks for, so that a message is carried out once, by the applying pass. A reply that no frame
can announce is given up before anything is carried out: one failure is sent and nothing else happens,
and since a failure always fits, the reply is tried at most once more.
-/
import VoxelCube.Proofs.Reply.Framing

namespace VoxelCube

open Link

/-! ## What the applying pass sends -/

/-- A machine after bytes were put into a sink. -/
def Machine.send {ω : Type} (s : Machine ω) (sink : Sink ω) (bytes : List UInt8) : Machine ω :=
  s.around (sink.puts bytes)

namespace Exchange

variable {ω : Type} (sink : Sink ω) (variant : Crc.Variant) (opening : List UInt8) (s : Machine ω)
  (payload : List UInt8)

/-- The applying pass over a machine, after its frame was opened and some payload written. -/
def sending : Exchange ω where
  machine := s.send sink (opening ++ Hex.encode payload)
  writer := { pass := .apply, crc := Crc.update { variant } payload, length := payload.length }

theorem sending_write (field : Field) :
    (sending sink variant opening s payload).write sink field =
      sending sink variant opening s (payload ++ field.encode) := by
  rw [write_apply sink field _ rfl]
  simp [sending, Machine.send, Machine.around, Sink.puts_append, Hex.encode_append, Crc.update_append]

end Exchange

namespace Cube

variable {ω : Type} (c : Cube ω) (sink : Sink ω) {packet : Packet} {reply : Reply} {s t : Machine ω}
  {payload : List UInt8}

/-- A reply that carries `s` to `t` while it writes its payload puts one frame into the sink. -/
theorem applyReply_sending (fits : payload.length ≤ maxReply)
    (made : ∀ opening, c.runReply sink packet reply (.sending sink c.config.crc opening s []) =
      .sending sink c.config.crc opening t payload) :
    c.applyReply sink packet reply (UInt16.ofNat payload.length) s =
      (payload.length, t.send sink (wire c.config.crc payload)) := by
  have announced : (UInt16.ofNat payload.length).toNat = payload.length :=
    UInt16.toNat_ofNat_of_lt' (Nat.lt_succ_of_le fits)
  have opened : ∀ opening : List UInt8,
      (⟨s.send sink opening, .new .apply c.config.crc⟩ : Exchange ω) =
        .sending sink c.config.crc opening s [] := by
    intro opening
    rw [Exchange.sending, Hex.encode_nil, List.append_nil]
    rfl
  rw [c.applyReply_eq, announced]
  show (let x := c.runReply sink packet reply ⟨s.send sink _, .new .apply c.config.crc⟩
    (x.writer.length, x.machine.send sink (Hex.encode (Word.toBytes 2 x.writer.crc.value.toNat)))) = _
  rw [opened, made]
  simp only [Exchange.sending, Machine.send, Machine.around, Crc.value_update, ← Sink.puts_append]
  rfl

/-- The payload of a default reply. -/
def defaultPayload (packet : Packet) (address : UInt64) (command : UInt8) (status : Status) :
    List UInt8 :=
  (packet.header.reply address Command.defaultResponse.code).encode ++ [command, status.code]

theorem length_defaultPayload (packet : Packet) (address : UInt64) (command : UInt8)
    (status : Status) : (defaultPayload packet address command status).length = 19 := by
  simp [defaultPayload]

/-- A default reply sends its frame and changes nothing else. -/
theorem applyReply_default (packet : Packet) (command : UInt8) (status : Status) (s : Machine ω) :
    let payload := defaultPayload packet s.device.address command status
    c.applyReply sink packet (.default command status) (UInt16.ofNat payload.length) s =
      (payload.length, s.send sink (wire c.config.crc payload)) := by
  refine c.applyReply_sending sink ?_ fun opening => ?_
  · rw [length_defaultPayload]
    decide
  · unfold runReply
    simp only [Exchange.sending_write]
    rfl

/-- Nor does a default reply change anything else when it is counted first. -/
theorem respond_default (packet : Packet) (command : UInt8) (status : Status) (s : Machine ω) :
    c.respond sink packet (.default command status) s = (19, s.send sink
      (wire c.config.crc (defaultPayload packet s.device.address command status))) := by
  have count : (c.countReply sink packet (.default command status) s).1 = 19 :=
    c.countReply_length sink packet _ s
  have sent : c.sentReply sink packet (.default command status) s = .default command status := by
    unfold sentReply
    rw [count]
    rfl
  have applied := c.applyReply_default sink packet command status s
  dsimp only at applied
  rw [length_defaultPayload] at applied
  rw [c.respond_eq, sent, count, applied]

/-! ## Attempts -/

/-- Attempts at a reply: the one that a frame can announce is carried out, after `retries` that were
only counted and given up for a failure. -/
inductive Responds (packet : Packet) : Reply → Machine ω → Nat → Nat × Machine ω → Prop where
  | fits {reply : Reply} {s : Machine ω} (fits : (c.countReply sink packet reply s).1 ≤ maxReply) :
    Responds packet reply s 0 (c.applyReply sink packet reply
      (UInt16.ofNat (c.countReply sink packet reply s).1) (c.countReply sink packet reply s).2)
  | replaced {reply : Reply} {s : Machine ω} {retries : Nat} {result : Nat × Machine ω}
    (long : maxReply < (c.countReply sink packet reply s).1)
    (next : Responds packet (.default packet.header.command .failure)
      (c.countReply sink packet reply s).2 retries result) :
    Responds packet reply s (retries + 1) result

theorem countReply_failure (packet : Packet) (s : Machine ω) :
    (c.countReply sink packet (.default packet.header.command .failure) s).1 = 19 :=
  c.countReply_length sink packet _ s

theorem responds_fitting (fits : (c.countReply sink packet reply s).1 ≤ maxReply) {retries : Nat}
    {result : Nat × Machine ω} :
    c.Responds sink packet reply s retries result ↔
      retries = 0 ∧ result = c.respond sink packet reply s := by
  have respond : c.respond sink packet reply s = c.applyReply sink packet reply
      (UInt16.ofNat (c.countReply sink packet reply s).1) (c.countReply sink packet reply s).2 := by
    unfold Cube.respond
    dsimp only
    rw [if_pos fits]
  rw [respond]
  constructor
  · intro attempted
    cases attempted with
    | fits _ => exact ⟨rfl, rfl⟩
    | replaced long _ => exact absurd fits (Nat.not_le.mpr long)
  · rintro ⟨rfl, rfl⟩
    exact .fits fits

/-- A reply that is too long to be announced is responded to as a failure, which is counted again and
fits. -/
theorem respond_long (long : maxReply < (c.countReply sink packet reply s).1) :
    c.respond sink packet reply s =
      c.respond sink packet (.default packet.header.command .failure) s := by
  have short : (c.countReply sink packet (.default packet.header.command .failure) s).1 ≤ maxReply := by
    rw [countReply_failure]
    decide
  rw [c.respond_eq, c.respond_eq]
  unfold sentReply
  rw [if_neg (Nat.not_le.mpr long), if_pos short]

theorem responds_long (long : maxReply < (c.countReply sink packet reply s).1) {retries : Nat}
    {result : Nat × Machine ω} :
    c.Responds sink packet reply s retries result ↔
      retries = 1 ∧ result = c.respond sink packet reply s := by
  have short : (c.countReply sink packet (.default packet.header.command .failure) s).1 ≤ maxReply := by
    rw [countReply_failure]
    decide
  rw [c.respond_long sink long]
  constructor
  · intro attempted
    cases attempted with
    | fits fits => exact absurd fits (Nat.not_le.mpr long)
    | replaced _ next =>
      rw [countReply_machine] at next
      obtain ⟨none, same⟩ := (c.responds_fitting sink short).mp next
      exact ⟨by rw [none], same⟩
  · rintro ⟨one, same⟩
    rw [one]
    refine .replaced long ?_
    rw [countReply_machine]
    exact (c.responds_fitting sink short).mpr ⟨rfl, same⟩

end Cube

/-! ## Where a message goes -/

namespace Cube

/-- The reply that a command about attributes is given at the device endpoint. -/
def replyOf? : Command → Option Reply
  | .readAttributes => some .read
  | .writeAttributes => some .write
  | _ => none

variable {ω : Type} (c : Cube ω)

/-- The header of a message that gives a device with this address a command about attributes of a
cluster that is served. -/
structure Asks (command : Command) (address : UInt64) (h : Header) : Prop where
  channel : h.channel = Header.deviceChannel
  address : h.address = address ∨ h.address = 0
  standard : h.isManufacturerSpecific = false
  profile : h.profile = c.config.profile
  endpoint : h.endpoint = c.config.endpoint
  served : Cluster.isServed h.cluster
  command : h.command = command.code

variable {c} {command : Command} {address : UInt64} {h : Header} {reply : Reply}

theorem Asks.route (asks : c.Asks command address h) (kind : replyOf? command = some reply) :
    c.route address h = .reply reply := by
  have addressed : isAddressed address h = true := by
    unfold isAddressed
    simp [asks.channel, asks.standard, asks.address]
  have known : Command.ofCode? h.command = some command := by
    rw [asks.command, Command.ofCode?_code]
  have other : c.isTimeReport h = false := by
    unfold isTimeReport
    rw [known]
    cases command <;> first | rfl | cases kind
  have answered : c.replyFor h = reply := by
    unfold replyFor
    rw [if_pos asks.endpoint, known, asks.served]
    cases command <;> cases kind <;> rfl
  unfold Cube.route
  rw [addressed, asks.profile, other, answered, known]
  cases command <;> cases kind <;> simp

/-- A message that is to be replied to is answered by its reply. -/
theorem dispatch_of_route {sink : Sink ω} {packet : Packet} {payload : List UInt8} {s : Machine ω}
    (parsed : Packet.ofBytes? payload = some packet)
    (routed : c.route s.device.address packet.header = .reply reply) :
    c.dispatch sink payload s = (.responded (c.respond sink packet reply s).1,
      (c.respond sink packet reply s).2) := by
  unfold Cube.dispatch
  rw [parsed]
  dsimp only
  rw [routed]

/-- A message that was responded to was to be replied to. -/
theorem route_of_responded {sink : Sink ω} {packet : Packet} {payload : List UInt8} {s : Machine ω}
    {n : Nat} (parsed : Packet.ofBytes? payload = some packet)
    (responded : (c.dispatch sink payload s).1 = .responded n) :
    ∃ reply, c.route s.device.address packet.header = .reply reply := by
  unfold Cube.dispatch at responded
  rw [parsed] at responded
  dsimp only at responded
  split at responded
  · cases responded
  · cases responded
  · rename_i reply routed
    exact ⟨reply, routed⟩

end Cube

/-- The payload that the applying pass writes is sent in one frame. -/
theorem Tape.dispatch_of_wrote {ω : Type} {c : Cube ω} {tape : Tape c.board} {packet : Packet}
    {reply : Reply} {message payload : List UInt8} {s : Machine ω}
    (parsed : Packet.ofBytes? message = some packet)
    (routed : c.route s.device.address packet.header = .reply reply)
    (fits : c.replySize packet s reply ≤ Cube.maxReply) :
    let length := UInt16.ofNat (c.replySize packet s reply)
    let done := c.runReply tape.sink packet reply (tape.opened length s)
    tape.Wrote (tape.sent s.world ++ opening length) done payload →
      ∃ t, c.dispatch tape.sink message s = (.responded payload.length, t) ∧
        t.device = done.machine.device ∧
        tape.sent t.world = tape.sent s.world ++ wire c.config.crc payload := by
  intro length done wrote
  obtain ⟨size, device, sent⟩ := tape.applyReply_of_wrote wrote
  have announced : c.sentReply tape.sink packet reply s = reply := by
    unfold Cube.sentReply
    rw [c.countReply_length, if_pos fits]
  -- the applying pass is as long as the counting pass announced
  have counted : payload.length = c.replySize packet s reply := by
    rw [← size, c.applyReply_length]
  refine ⟨(c.applyReply tape.sink packet reply length s).2, ?_, device, ?_⟩
  · rw [Cube.dispatch_of_route parsed routed, c.respond_eq, announced, c.countReply_length, size]
  · rw [sent, ← frame_eq_wire (by rw [counted]; exact fits), counted]

/-! ## Carrying a message out -/

variable {ω : Type} (c : Cube ω) (sink : Sink ω) {packet : Packet} {reply : Reply} {s : Machine ω}
  {payload : List UInt8}

/-- **One application.** Counting a reply changes nothing. A message that asks for one is carried out
by one applying pass; where its reply is too long to be announced, one failure is sent and nothing else
happens. No reply is attempted more than twice. -/
theorem dispatch_applies_once (parsed : Packet.ofBytes? payload = some packet)
    (routed : c.route s.device.address packet.header = .reply reply) :
    let size := (c.countReply sink packet reply s).1
    (∀ writer : Writer, (c.runReply sink packet reply
      { machine := s, writer := { writer with pass := .count } }).machine = s) ∧
    (c.dispatch sink payload s =
      if size ≤ Cube.maxReply then
        (.responded size, (c.applyReply sink packet reply (UInt16.ofNat size) s).2)
      else
        (.responded 19, s.send sink (wire c.config.crc
          (Cube.defaultPayload packet s.device.address packet.header.command .failure)))) ∧
    ∃ retries ≤ 1, ∀ n result, c.Responds sink packet reply s n result ↔
      n = retries ∧ result = c.respond sink packet reply s := by
  intro size
  refine ⟨fun writer => c.runReply_count sink packet reply _ rfl, ?_, ?_⟩
  · have responded : c.dispatch sink payload s = (.responded (c.respond sink packet reply s).1,
        (c.respond sink packet reply s).2) := by
      unfold Cube.dispatch
      rw [parsed]
      dsimp only
      rw [routed]
    rw [responded, c.respond_eq]
    unfold Cube.sentReply
    split
    · rw [c.applyReply_length, ← c.countReply_length sink]
    · have failed := c.applyReply_default sink packet packet.header.command .failure s
      dsimp only at failed
      rw [Cube.length_defaultPayload] at failed
      rw [c.countReply_failure, failed]
  · by_cases fits : (c.countReply sink packet reply s).1 ≤ Cube.maxReply
    · exact ⟨0, Nat.zero_le 1, fun n result => c.responds_fitting sink fits⟩
    · exact ⟨1, Nat.le_refl 1, fun n result => c.responds_long sink (Nat.not_le.mp fits)⟩

namespace Bench

theorem readIds_replicate (n : Nat) :
    readIds (List.replicate n [0x06, 0x00]).flatten = List.replicate n Attribute.effectNames.row.id := by
  induction n with
  | zero => rfl
  | succ n ih =>
    rw [List.replicate_succ, List.flatten_cons, List.replicate_succ, ← ih]
    rfl

/-- A read that asks for the effect names `n` times. -/
def crowdedRead (n : Nat) : Packet :=
  { header := sampleHeader .readAttributes, body := (List.replicate n [0x06, 0x00]).flatten }

/-- The sample cube when it is new. -/
def newMachine : Machine World := sampleCube.machine { world := {} }

theorem replySize_crowded {h : Header} (cluster : h.cluster = Cluster.cube.code) (n : Nat) :
    sampleCube.replySize { header := h, body := (crowdedRead n).body } newMachine .read = 17 + n * 52 := by
  have size : sampleCube.answerSize Cluster.cube.code newMachine Attribute.effectNames.row.id = 52 := by
    decide +kernel
  unfold Cube.replySize crowdedRead
  dsimp only
  rw [readIds_replicate, List.map_replicate, List.sum_replicate_nat, cluster, size]

theorem countReply_crowdedRead (n : Nat) :
    (sampleCube.countReply traySink (crowdedRead n) .read newMachine).1 = 17 + n * 52 := by
  rw [Cube.countReply_length]
  exact replySize_crowded rfl n

/-- The crowded read is answered with a failure, and nothing but the tray changes. -/
theorem crowdedRead_fails :
    sampleCube.dispatch traySink ((crowdedRead 1500).header.encode ++ (crowdedRead 1500).body)
        newMachine =
      (.responded 19, newMachine.send traySink (wire sampleCube.config.crc (Cube.defaultPayload
        (crowdedRead 1500) sampleCube.config.factoryAddress Command.readAttributes.code .failure))) := by
  have routed : sampleCube.route newMachine.device.address (sampleHeader .readAttributes) =
      .reply .read := by
    decide +kernel
  have once := (dispatch_applies_once sampleCube traySink
    (Packet.ofBytes?_encode (crowdedRead 1500).header (crowdedRead 1500).body) routed).2.1
  have long : ¬17 + 1500 * 52 ≤ Cube.maxReply := by decide
  rw [countReply_crowdedRead, if_neg long] at once
  exact once

end Bench

end VoxelCube
