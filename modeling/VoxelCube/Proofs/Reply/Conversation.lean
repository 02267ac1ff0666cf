/-
Two devices that answer each other. What one of them sends is a message to the other, and a reply is
taken for what it is: to the reply to a read or a write a device says at most that it cannot do with it,
and to that nothing is said. So no message, whatever it is, makes two devices talk for long, and only the
first message changes anything.
-/
import VoxelCube.Proofs.Link.Digits
import VoxelCube.Proofs.Reply.Passes

namespace VoxelCube

open Link

/-! ## Replies as messages -/

/-- The commands of replies. -/
def Command.responses : List Command :=
  [.readAttributesResponse, .writeAttributesResponse, .defaultResponse]

theorem Reply.command_mem (reply : Reply) : reply.command ∈ Command.responses := by
  cases reply <;> simp [command, Command.responses]

/-- The bytes are a message with this command. -/
def Carries (message : List UInt8) (command : Command) : Prop :=
  ∃ packet, Packet.ofBytes? message = some packet ∧ packet.header.command = command.code

theorem carries_reply (h : Header) (address : UInt64) (command : Command) (body : List UInt8) :
    Carries ((h.reply address command.code).encode ++ body) command :=
  ⟨_, Packet.ofBytes?_encode _ _, rfl⟩

namespace Cube

variable {ω : Type} (c : Cube ω) (address : UInt64) {h : Header}

/-- The reply to a read or a write is ignored, or not understood. -/
theorem route_of_response {command : Command}
    (responds : command = .readAttributesResponse ∨ command = .writeAttributesResponse)
    (carried : h.command = command.code) : c.route address h = .ignore ∨
      c.route address h = .reply (.default h.command .unsupportedGeneralCommand) := by
  have known : Command.ofCode? h.command = some command := by rw [carried, Command.ofCode?_code]
  have untimed : c.isTimeReport h = false := by
    unfold isTimeReport
    rcases responds with rfl | rfl <;> simp [known]
  have general : c.replyFor h = .default h.command .unsupportedGeneralCommand := by
    unfold replyFor
    rcases responds with rfl | rfl <;> simp [known]
  unfold route
  rw [untimed, general, known]
  rcases responds with rfl | rfl <;> dsimp only <;> split <;> simp

/-- A default reply is ignored. -/
theorem route_of_defaultResponse (carried : h.command = Command.defaultResponse.code) :
    c.route address h = .ignore := by
  unfold route
  simp [carried]

end Cube

/-! ## Stations -/

/-- A device on the line, with a sink that keeps what it sends. -/
structure Station where
  World : Type
  cube : Cube World
  tape : Tape cube.board
  machine : Machine World

namespace Station

variable (a b : Station) (message : List UInt8)

/-- What the station made of a message. -/
def outcome : Outcome := (a.cube.dispatch a.tape.sink message a.machine).1

/-- The station after it took a message. -/
def take : Station := { a with machine := (a.cube.dispatch a.tape.sink message a.machine).2 }

/-- All that the station sent so far. -/
def sent : List UInt8 := a.tape.sent a.machine.world

/-- The station after it did nothing but send some bytes. -/
def send (bytes : List UInt8) : Station := { a with machine := a.machine.send a.tape.sink bytes }

/-- The station does not answer the message. -/
structure Silent : Prop where
  outcome : ∀ n, a.outcome message ≠ .responded n
  sent : (a.take message).sent = a.sent

/-- The station answers the message with one frame around the answer. -/
structure Answers (answer : List UInt8) : Prop where
  outcome : a.outcome message = .responded answer.length
  sent : (a.take message).sent = a.sent ++ wire a.cube.config.crc answer

variable {a b message}

theorem Answers.unique {answer other : List UInt8} (h : a.Answers message answer)
    (h' : a.Answers message other) : other = answer :=
  wire_injective (List.append_cancel_left (h'.sent.symm.trans h.sent))

theorem Silent.not_answers (h : a.Silent message) (answer : List UInt8) :
    ¬a.Answers message answer :=
  fun answers => h.outcome _ answers.outcome

/-! ## Answers -/

theorem silent_of_ignored
    (ignored : a.cube.dispatch a.tape.sink message a.machine = (.ignored, a.machine)) :
    a.Silent message ∧ a.take message = a := by
  have same : a.take message = a := by
    unfold take
    rw [ignored]
  refine ⟨⟨?_, by rw [same]⟩, same⟩
  intro n responded
  unfold outcome at responded
  rw [ignored] at responded
  cases responded

theorem silent_of_route {packet : Packet} (parsed : Packet.ofBytes? message = some packet)
    (routed : a.cube.route a.machine.device.address packet.header = .ignore) :
    a.Silent message ∧ a.take message = a := by
  apply silent_of_ignored
  unfold Cube.dispatch
  rw [parsed]
  dsimp only
  rw [routed]

variable (a message) in
/-- A station answers with a reply, or not at all. -/
theorem silent_or_answers : a.Silent message ∨
    ∃ answer, a.Answers message answer ∧ ∃ command ∈ Command.responses, Carries answer command := by
  cases parsed : Packet.ofBytes? message with
  | none =>
    refine .inl (silent_of_ignored ?_).1
    unfold Cube.dispatch
    rw [parsed]
  | some packet =>
    cases routed : a.cube.route a.machine.device.address packet.header with
    | ignore => exact .inl (silent_of_route parsed routed).1
    | timeReport =>
      have applied : a.cube.dispatch a.tape.sink message a.machine = (.applied,
          { a.machine with world := a.cube.takeTimeReport packet.body a.machine.world }) := by
        unfold Cube.dispatch
        rw [parsed]
        dsimp only
        rw [routed]
      refine .inl ⟨?_, ?_⟩
      · intro n responded
        unfold outcome at responded
        rw [applied] at responded
        cases responded
      · unfold sent take
        rw [applied]
        exact a.tape.sent_takeTimeReport packet.body a.machine.world
    | reply reply =>
      have responded : a.cube.dispatch a.tape.sink message a.machine =
          (.responded (a.cube.respond a.tape.sink packet reply a.machine).1,
            (a.cube.respond a.tape.sink packet reply a.machine).2) :=
        Cube.dispatch_of_route parsed routed
      obtain ⟨rest, length, -, sent⟩ := a.tape.sent_respond_headed packet reply a.machine
      let kind := a.cube.sentReply a.tape.sink packet reply a.machine
      refine .inr ⟨_, ⟨?_, ?_⟩, kind.command, kind.command_mem,
        carries_reply packet.header a.machine.device.address kind.command rest⟩
      · unfold outcome
        rw [responded, length]
      · unfold Station.sent take
        rw [responded]
        exact sent

/-- A station that does nothing about a message but send one frame answers it with that. -/
theorem answers_of_send {answer : List UInt8}
    (responded : a.cube.dispatch a.tape.sink message a.machine =
      (.responded answer.length, a.machine.send a.tape.sink (wire a.cube.config.crc answer))) :
    a.Answers message answer ∧ a.take message = a.send (wire a.cube.config.crc answer) := by
  have took : a.take message = a.send (wire a.cube.config.crc answer) := by
    unfold take
    rw [responded]
    rfl
  refine ⟨⟨congrArg Prod.fst responded, ?_⟩, took⟩
  rw [took]
  exact a.tape.sent_puts _ _

/-- To the reply to a read or a write a station gives at most a default reply, and does nothing else. -/
theorem take_of_response {command : Command}
    (responds : command = .readAttributesResponse ∨ command = .writeAttributesResponse)
    (carries : Carries message command) :
    (a.Silent message ∧ a.take message = a) ∨
      ∃ answer, a.Answers message answer ∧ Carries answer .defaultResponse ∧
        a.take message = a.send (wire a.cube.config.crc answer) := by
  obtain ⟨packet, parsed, carried⟩ := carries
  rcases a.cube.route_of_response a.machine.device.address responds carried with routed | routed
  · exact .inl (silent_of_route parsed routed)
  · let answer := Cube.defaultPayload packet a.machine.device.address packet.header.command
      .unsupportedGeneralCommand
    have responded : a.cube.dispatch a.tape.sink message a.machine =
        (.responded answer.length, a.machine.send a.tape.sink (wire a.cube.config.crc answer)) := by
      rw [Cube.dispatch_of_route parsed routed, a.cube.respond_default, Cube.length_defaultPayload]
    obtain ⟨answers, took⟩ := answers_of_send responded
    exact .inr ⟨answer, answers, carries_reply _ _ _ _, took⟩

/-- A default reply is not answered, and does nothing. -/
theorem take_of_defaultResponse (carries : Carries message .defaultResponse) :
    a.Silent message ∧ a.take message = a := by
  obtain ⟨packet, parsed, carried⟩ := carries
  exact silent_of_route parsed (a.cube.route_of_defaultResponse _ carried)

end Station

/-! ## Conversations -/

/-- The first station is given a message, and each answer is given to the other station, until one of
them does not answer. -/
inductive Talk : Station → Station → (message : List UInt8) → (answers : List (List UInt8)) →
    Station → Station → Prop where
  | silence {a b : Station} {message : List UInt8} (silent : a.Silent message) :
    Talk a b message [] (a.take message) b
  | answer {a b a' b' : Station} {message answer : List UInt8} {answers : List (List UInt8)}
    (answered : a.Answers message answer) (next : Talk b (a.take message) answer answers b' a') :
    Talk a b message (answer :: answers) a' b'

namespace Talk

variable {a b a' b' a'' b'' : Station} {message : List UInt8} {answers answers' : List (List UInt8)}

/-- A conversation goes one way only. -/
theorem unique (h : Talk a b message answers a' b') (h' : Talk a b message answers' a'' b'') :
    answers' = answers ∧ a'' = a' ∧ b'' = b' := by
  induction h generalizing answers' a'' b'' with
  | silence silent =>
    cases h' with
    | silence _ => exact ⟨rfl, rfl, rfl⟩
    | answer answered _ => exact absurd answered (silent.not_answers _)
  | answer answered next ih =>
    cases h' with
    | silence silent => exact absurd answered (silent.not_answers _)
    | answer answered' next' =>
      obtain rfl := answered.unique answered'
      obtain ⟨rfl, rfl, rfl⟩ := ih next'
      exact ⟨rfl, rfl, rfl⟩

/-- After a default reply nobody says anything. -/
theorem of_defaultResponse (a b : Station) (carries : Carries message .defaultResponse) :
    Talk a b message [] a b := by
  obtain ⟨silent, same⟩ := a.take_of_defaultResponse carries
  have talk : Talk a b message [] (a.take message) b := .silence silent
  rwa [same] at talk

/-- After any reply there is at most a default reply, and nothing else happens. -/
theorem of_response (a b : Station) {command : Command} (responds : command ∈ Command.responses)
    (carries : Carries message command) :
    ∃ answers bytes, Talk a b message answers (a.send bytes) b ∧ answers.length ≤ 1 := by
  have default_or_other : command = .defaultResponse ∨
      command = .readAttributesResponse ∨ command = .writeAttributesResponse := by
    simp only [Command.responses, List.mem_cons, List.not_mem_nil, or_false] at responds
    rcases responds with read | write | default
    · exact .inr (.inl read)
    · exact .inr (.inr write)
    · exact .inl default
  rcases default_or_other with rfl | other
  · exact ⟨[], [], of_defaultResponse a b carries, Nat.zero_le 1⟩
  · rcases a.take_of_response other carries with ⟨silent, same⟩ | ⟨answer, answered, default, took⟩
    · have talk : Talk a b message [] (a.take message) b := .silence silent
      rw [same] at talk
      exact ⟨[], [], talk, Nat.zero_le 1⟩
    · have talk : Talk a b message [answer] (a.take message) b :=
        .answer answered (of_defaultResponse b (a.take message) default)
      rw [took] at talk
      exact ⟨[answer], _, talk, Nat.le_refl 1⟩

end Talk

/-- **No response loops.** Whatever a station sends is a reply; to the reply to a read or a write it
sends at most a default reply, and to that nothing. So two stations in any states, one of which is given
any message, stop talking after two answers at most, in one way only; and but for the first message
nothing happens at either of them than that bytes are sent. -/
theorem no_response_loops (a b : Station) (message : List UInt8) :
    (∀ (station : Station) (heard answer : List UInt8), station.Answers heard answer →
      ∃ command ∈ Command.responses, Carries answer command) ∧
    (∀ (station : Station) (heard answer : List UInt8),
      Carries heard .readAttributesResponse ∨ Carries heard .writeAttributesResponse →
      station.Answers heard answer → Carries answer .defaultResponse) ∧
    (∀ (station : Station) (heard : List UInt8), Carries heard .defaultResponse →
      station.Silent heard) ∧
    ∃ answers bytes, answers.length ≤ 2 ∧ ∀ answers' a' b', Talk a b message answers' a' b' ↔
      answers' = answers ∧ a' = a.take message ∧ b' = b.send bytes := by
  refine ⟨?_, ?_, ?_, ?_⟩
  · intro station heard answer answered
    rcases station.silent_or_answers heard with silent | ⟨other, answered', replies⟩
    · exact absurd answered (silent.not_answers _)
    · rwa [answered.unique answered'] at replies
  · intro station heard answer carries answered
    obtain ⟨command, responds, carries⟩ : ∃ command : Command,
        (command = .readAttributesResponse ∨ command = .writeAttributesResponse) ∧
          Carries heard command := by
      rcases carries with read | write
      · exact ⟨_, .inl rfl, read⟩
      · exact ⟨_, .inr rfl, write⟩
    rcases station.take_of_response responds carries with ⟨silent, -⟩ | ⟨other, answered', default, -⟩
    · exact absurd answered (silent.not_answers _)
    · rwa [answered.unique answered'] at default
  · exact fun station heard carries => (station.take_of_defaultResponse carries).1
  · rcases a.silent_or_answers message with silent | ⟨answer, answered, command, responds, carries⟩
    · refine ⟨[], [], Nat.zero_le 2, fun answers' a' b' => ⟨(Talk.silence silent).unique, ?_⟩⟩
      rintro ⟨rfl, rfl, rfl⟩
      exact .silence silent
    · obtain ⟨more, bytes, talk, short⟩ := Talk.of_response b (a.take message) responds carries
      refine ⟨answer :: more, bytes, Nat.succ_le_succ short, fun answers' a' b' =>
        ⟨(Talk.answer answered talk).unique, ?_⟩⟩
      rintro ⟨rfl, rfl, rfl⟩
      exact .answer answered talk

namespace Bench

/-- The sample cube as a station. -/
def sampleStation : Station where
  World := World
  cube := sampleCube
  tape := sampleTape
  machine := newMachine

/-- A message that asks the sample cube for its playlist. -/
def playlistRead : List UInt8 := (sampleHeader .readAttributes).encode ++ [0x03, 0x00]

def playlistReplyHeader : Header :=
  (sampleHeader .readAttributes).reply newMachine.device.address Command.readAttributesResponse.code

/-- The reply of the sample cube. -/
def playlistReply : List UInt8 := playlistReplyHeader.encode ++ [0x03, 0x00, 0x00, 0x20, 0x00]

/-- What a sample cube replies to the reply of another one. -/
def puzzledReply : List UInt8 :=
  (playlistReplyHeader.reply newMachine.device.address Command.defaultResponse.code).encode ++
    [Command.readAttributesResponse.code, Status.unsupportedGeneralCommand.code]

/-- Two new sample cubes, one of which is asked for its playlist, give two answers, of which the second
one ends the conversation. -/
theorem sampleStation_talks : Carries puzzledReply .defaultResponse ∧
    ∃ b', Talk sampleStation sampleStation playlistRead [playlistReply, puzzledReply]
      (sampleStation.take playlistRead) b' := by
  obtain ⟨-, puzzled, silent, answers, bytes, -, talk⟩ :=
    no_response_loops sampleStation sampleStation playlistRead
  have told : sampleStation.Answers playlistRead playlistReply :=
    ⟨by decide +kernel, by decide +kernel⟩
  have answered : sampleStation.Answers playlistReply puzzledReply :=
    ⟨by decide +kernel, by decide +kernel⟩
  have default := puzzled _ _ _ (.inl (carries_reply _ _ _ _)) answered
  have spoken := Talk.answer told (.answer answered (.silence (silent _ _ default)))
  obtain ⟨same, -⟩ := (talk _ _ _).mp spoken
  exact ⟨default, _, (talk _ _ _).mpr ⟨same, rfl, rfl⟩⟩

end Bench

end VoxelCube
