/-
Default replies that were not wanted. A message can ask that no default reply is given to it. Where the
header alone asks for a default reply, none is given; but a reply that turns out too long for a frame is
replaced by a default reply without asking again. These are the only ones that come unwanted.
-/
import VoxelCube.Proofs.Reply.Conversation
import VoxelCube.Proofs.Reply.Footprint

namespace VoxelCube

open Link

variable {a : Station} {message answer : List UInt8} {packet : Packet} {command : Command} {reply : Reply}

theorem Carries.unique {other : Command} (first : Carries message command)
    (second : Carries message other) : command = other := by
  obtain ⟨packet, parsed, carried⟩ := first
  obtain ⟨packet', parsed', carried'⟩ := second
  obtain rfl : packet = packet' := Option.some.inj (parsed.symm.trans parsed')
  have codes := congrArg Command.ofCode? (carried.symm.trans carried')
  rw [Command.ofCode?_code, Command.ofCode?_code] at codes
  exact Option.some.inj codes

theorem Cube.replyOf?_command (kind : Cube.replyOf? command = some reply) :
    reply.command ≠ .defaultResponse := by
  cases command <;> cases kind <;> rintro ⟨⟩

namespace Station

/-- The payload of the failure that replaces a reply to a message. -/
def failure (a : Station) (packet : Packet) : List UInt8 :=
  Cube.defaultPayload packet a.machine.device.address packet.header.command .failure

/-- A reply that is short enough is given under its own command. -/
theorem carries_of_fits (parsed : Packet.ofBytes? message = some packet)
    (routed : a.cube.route a.machine.device.address packet.header = .reply reply)
    (fits : a.cube.replySize packet a.machine reply ≤ Cube.maxReply)
    (answers : a.Answers message answer) : Carries answer reply.command := by
  obtain ⟨rest, -, -, sent⟩ := a.tape.sent_respond_headed packet reply a.machine
  have same : a.cube.sentReply a.tape.sink packet reply a.machine = reply := by
    unfold Cube.sentReply
    rw [a.cube.countReply_length, if_pos fits]
  have told := answers.sent
  unfold Station.sent take at told
  rw [Cube.dispatch_of_route parsed routed, sent, same] at told
  rw [← wire_injective (List.append_cancel_left told)]
  exact carries_reply _ _ _ _

/-- A reply that is too long is given up for a failure, and nothing else happens. -/
theorem answers_failure (parsed : Packet.ofBytes? message = some packet)
    (routed : a.cube.route a.machine.device.address packet.header = .reply reply)
    (long : Cube.maxReply < a.cube.replySize packet a.machine reply) :
    a.Answers message (a.failure packet) ∧
      a.take message = a.send (wire a.cube.config.crc (a.failure packet)) := by
  rw [← a.cube.countReply_length a.tape.sink] at long
  apply answers_of_send
  unfold failure
  rw [Cube.dispatch_of_route parsed routed, a.cube.respond_long _ long, a.cube.respond_default,
    Cube.length_defaultPayload]

end Station

/-- **Unwanted default replies.** A station that is given a message which asks for no default reply gives
one exactly where the message is a read or a write of a cluster that is served, and the reply to it is
too long for a frame. It is a failure then, and nothing else happens. -/
theorem unwanted_default_reply_iff (a : Station) (parsed : Packet.ofBytes? message = some packet)
    (unwanted : packet.header.disablesDefaultReply = true) :
    ((∃ answer, a.Answers message answer ∧ Carries answer .defaultResponse) ↔
      ∃ command reply, Cube.replyOf? command = some reply ∧
        a.cube.Asks command a.machine.device.address packet.header ∧
        Cube.maxReply < a.cube.replySize packet a.machine reply) ∧
    ∀ answer, a.Answers message answer → Carries answer .defaultResponse →
      answer = a.failure packet ∧ a.take message = a.send (wire a.cube.config.crc answer) := by
  have long : ∀ answer, a.Answers message answer → Carries answer .defaultResponse →
      ∃ command reply, Cube.replyOf? command = some reply ∧
        a.cube.Asks command a.machine.device.address packet.header ∧
        Cube.maxReply < a.cube.replySize packet a.machine reply := by
    intro answer answers carries
    obtain ⟨reply, routed⟩ := Cube.route_of_responded parsed answers.outcome
    rcases Cube.Asks.of_route routed with ⟨status, rfl, wanted⟩ | ⟨command, kind, asks⟩
    · cases unwanted.symm.trans wanted
    · refine ⟨command, reply, kind, asks, Nat.not_le.mp fun fits => ?_⟩
      have told := a.carries_of_fits parsed routed fits answers
      exact Cube.replyOf?_command kind (told.unique carries)
  refine ⟨⟨?_, ?_⟩, ?_⟩
  · rintro ⟨answer, answers, carries⟩
    exact long answer answers carries
  · rintro ⟨command, reply, kind, asks, overlong⟩
    exact ⟨_, (a.answers_failure parsed (asks.route kind) overlong).1, carries_reply _ _ _ _⟩
  · intro answer answers carries
    obtain ⟨command, reply, kind, asks, overlong⟩ := long answer answers carries
    obtain ⟨failed, took⟩ := a.answers_failure parsed (asks.route kind) overlong
    obtain rfl := failed.unique answers
    exact ⟨rfl, took⟩

namespace Bench

/-- The header of a read that asks for no default reply. -/
def quietHeader : Header := { sampleHeader .readAttributes with flags := 0x10 }

theorem quietHeader_asks : sampleCube.Asks .readAttributes newMachine.device.address quietHeader :=
  ⟨rfl, .inr rfl, by decide, rfl, rfl, rfl, rfl⟩

/-- A read of the effect names, `n` times. -/
def quietRead (n : Nat) : Packet := { header := quietHeader, body := (crowdedRead n).body }

theorem quietRead_parsed (n : Nat) :
    Packet.ofBytes? ((quietRead n).header.encode ++ (quietRead n).body) = some (quietRead n) :=
  Packet.ofBytes?_encode _ _

/-- A short one gets no default reply. -/
theorem quietRead_heeded : ¬∃ answer,
    sampleStation.Answers ((quietRead 3).header.encode ++ (quietRead 3).body) answer ∧
      Carries answer .defaultResponse := by
  intro answered
  obtain ⟨command, reply, kind, asks, long⟩ :=
    (unwanted_default_reply_iff sampleStation (quietRead_parsed 3) (by decide)).1.mp answered
  obtain rfl : command = .readAttributes := by
    have codes := asks.command.symm.trans quietHeader_asks.command
    cases command <;> first | rfl | exact absurd codes (by decide)
  cases kind
  have size : sampleCube.replySize (quietRead 3) newMachine .read = 17 + 3 * 52 := replySize_crowded rfl 3
  exact absurd (size ▸ long) (by decide)

/-- A long one does. -/
theorem quietRead_ignored : (quietRead 1500).header.disablesDefaultReply = true ∧
    ∃ answer, sampleStation.Answers ((quietRead 1500).header.encode ++ (quietRead 1500).body) answer ∧
      Carries answer .defaultResponse := by
  have size : sampleCube.replySize (quietRead 1500) newMachine .read = 17 + 1500 * 52 :=
    replySize_crowded rfl 1500
  have long : Cube.maxReply < sampleCube.replySize (quietRead 1500) newMachine .read := by
    rw [size]
    decide
  have routed := quietHeader_asks.route rfl
  obtain ⟨failed, -⟩ := sampleStation.answers_failure (quietRead_parsed 1500) routed long
  exact ⟨by decide, _, failed, carries_reply _ _ _ _⟩

end Bench

end VoxelCube
