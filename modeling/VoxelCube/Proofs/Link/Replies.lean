/-
Single-octet replies. What the serial line brought since the main loop was new decides which bytes are
answered with an acknowledgement and which with a refusal: those that end a good frame, spoil one or
overflow it, and those that begin none or end a damaged one. Each reply belongs to a start octet of its
own, a frame that announces more than fits is acknowledged once, and octets between frames are not
answered. The heard log holds every byte with its reply and all that was sent on it.
-/
import VoxelCube.Proofs.Link.Delivery
import VoxelCube.Proofs.Link.Verdicts
import VoxelCube.Proofs.MainLoop.Runs
import VoxelCube.Proofs.Reply.Outbox

namespace VoxelCube

open Link Link.Receiver
open Hex (IsDigit)

/-! ## Replies -/

/-- The octet that answers what a receiver reports, if one does: a frame is acknowledged, a fault is
answered with its reply. -/
def replyTo : Option (Except Fault Event) → Option UInt8
  | some (.ok (.frame _)) => some ackOctet
  | some (.error fault) => some fault.reply
  | _ => none

theorem nak_ne_ack : nakOctet ≠ ackOctet := by decide

theorem replyTo_eq_ack {report : Option (Except Fault Event)} : replyTo report = some ackOctet ↔
    (∃ p, report = some (.ok (.frame p))) ∨ report = some (.error .invalidDigit) ∨
      report = some (.error .overflow) := by
  rcases report with _ | fault | event
  · simp [replyTo]
  · cases fault <;> simp [replyTo, Fault.reply, nak_ne_ack]
  · cases event <;> simp [replyTo]

theorem replyTo_eq_nak {report : Option (Except Fault Event)} : replyTo report = some nakOctet ↔
    report = some (.error .notAPacket) ∨ report = some (.error .badChecksum) := by
  rcases report with _ | fault | event
  · simp [replyTo]
  · cases fault <;> simp [replyTo, Fault.reply, nak_ne_ack.symm]
  · cases event <;> simp [replyTo, nak_ne_ack.symm]

namespace Link.Receiver

variable (variant : Crc.Variant) {r : Receiver} {digits : List UInt8} {c : UInt8}

theorem Located.idle_of_not_isInFrame {seen : List UInt8} (h : Located seen r)
    (outside : ¬r.isInFrame = true) : ∃ matched, r = .idle matched := by
  cases h with
  | idle matched => exact ⟨matched, rfl⟩
  | opening => exact absurd rfl outside
  | reading reading => exact absurd reading.isInFrame outside

/-- Of a receiver between frames no reply is due, and only a start octet takes it into a frame. -/
theorem next_idle (matched : Fin 3) (plain : c ≠ startOctet) :
    (next variant (idle matched) c).isInFrame = false ∧
      replyTo ((idle matched).feed variant c).2 = none := by
  obtain ⟨matched', event, stays, noFrame⟩ := feedIdle_stays matched c
  have fed : (idle matched).feed variant c = (idle matched', event.map .ok) := by
    rw [feed_of_ne plain]
    simp only [feedInside, stays]
  unfold next
  rw [fed]
  cases event with
  | none => exact ⟨rfl, rfl⟩
  | some event =>
    refine ⟨rfl, ?_⟩
    cases event with
    | frame p => exact absurd rfl (noFrame p)
    | ack | nak | probe => rfl

/-- A frame goes on after a digit exactly when no reply is due on it. -/
theorem Outcome.goes_on (h : Outcome variant digits (r.feed variant c)) :
    (next variant r c).isInFrame = true ↔ replyTo (r.feed variant c).2 = none := by
  unfold next
  generalize r.feed variant c = fed at h
  cases h with
  | more reading => exact iff_of_true reading.isInFrame rfl
  | overflow => exact iff_of_false Bool.false_ne_true (by rintro ⟨⟩)
  | @whole _ bytes received =>
    by_cases good : received = Crc.checksum variant bytes
    · simp only [judge, if_pos good]
      exact iff_of_false Bool.false_ne_true (by rintro ⟨⟩)
    · simp only [judge, if_neg good]
      exact iff_of_false Bool.false_ne_true (by rintro ⟨⟩)

/-- A receiver is in a frame after an octet exactly when this starts one, or when it was in a frame before
and no reply is due. -/
theorem isInFrame_next {seen : List UInt8} (h : Located seen r) (c : UInt8) :
    (next variant r c).isInFrame = true ↔
      c = startOctet ∨ (r.isInFrame = true ∧ replyTo (r.feed variant c).2 = none) := by
  by_cases start : c = startOctet
  · subst start
    rw [next_held (feed_start h.wf)]
    exact iff_of_true rfl (.inl rfl)
  rw [or_iff_right start]
  cases h with
  | idle matched =>
    rw [(next_idle variant matched start).1]
    exact iff_of_false Bool.false_ne_true fun inside => Bool.false_ne_true inside.1
  | opening =>
    unfold next
    rw [feed_of_ne start]
    by_cases begun : c = openOctet
    · simp only [feedInside, if_pos begun]
      exact iff_of_true rfl ⟨rfl, rfl⟩
    · simp only [feedInside, if_neg begun]
      exact iff_of_false Bool.false_ne_true (by rintro ⟨-, ⟨⟩⟩)
  | reading reading =>
    rw [and_iff_right reading.isInFrame]
    by_cases digit : IsDigit c
    · exact (reading.feed_digit variant digit).goes_on
    · unfold next
      rw [reading.feed_other variant digit start]
      exact iff_of_false Bool.false_ne_true (by rintro ⟨⟩)

/-- A reply is due only in a frame, and not on a start octet. -/
theorem of_replyTo {seen : List UInt8} (h : Located seen r)
    (due : replyTo (r.feed variant c).2 ≠ none) : c ≠ startOctet ∧ r.isInFrame = true := by
  have plain : c ≠ startOctet := by
    rintro rfl
    rw [feed_start h.wf] at due
    exact due rfl
  refine ⟨plain, ?_⟩
  cases h with
  | idle matched => exact absurd (next_idle variant matched plain).2 due
  | opening => rfl
  | reading reading => exact reading.isInFrame

end Link.Receiver

/-! ## The heard log -/

/-- A byte that the line brought, the single octet that answered it, if one did, and all bytes that were
sent on it. -/
structure Heard where
  byte : UInt8
  reply : Option UInt8
  sent : List UInt8
  deriving DecidableEq, Repr

/-- The bytes that were heard. -/
def Heard.bytes (log : List Heard) : List UInt8 := log.map Heard.byte

/-- The single octets that were sent. -/
def Heard.replies (log : List Heard) : List UInt8 := log.filterMap Heard.reply

section Says

variable {ω : Type} (c : Cube ω)

/-- What is sent on a byte on which the receiver reports this: on a frame its acknowledgement, and the
frame of an answer if it has one; on a fault its reply; on the probe the identity; else nothing. -/
inductive Says : Option (Except Fault Event) → (sent : List UInt8) → Prop where
  | silence : Says none []
  | ack : Says (some (.ok .ack)) []
  | nak : Says (some (.ok .nak)) []
  | taken (p : List UInt8) : Says (some (.ok (.frame p))) [ackOctet]
  | answered (p answer : List UInt8) :
    Says (some (.ok (.frame p))) (ackOctet :: wire c.config.crc answer)
  | identity (address : UInt64) :
    Says (some (.ok .probe)) (identity (textBytes c.config.identity.text) address)
  | fault (fault : Fault) : Says (some (.error fault)) [fault.reply]

variable {c} {report : Option (Except Fault Event)} {sent : List UInt8}

theorem Says.of_quiet (h : Says c report sent)
    (quiet : report = none ∨ report = some (.ok .ack) ∨ report = some (.ok .nak)) : sent = [] := by
  rcases quiet with rfl | rfl | rfl <;> cases h <;> rfl

theorem Says.of_fault {fault : Fault} (h : Says c (some (.error fault)) sent) :
    sent = [fault.reply] := by
  cases h
  rfl

end Says

namespace Cube

variable {ω : Type} (c : Cube ω) (outbox : Outbox c.board)

/-- What is heard when a main loop takes a byte. -/
def hearByte (byte : UInt8) (l : MainLoop ω) : Heard where
  byte
  reply := replyTo (l.receiver.feed c.config.crc byte).2
  sent := (outbox.sent (c.takeByte byte l).world).drop (outbox.sent l.world).length

/-- What is heard of up to `budget` bytes. -/
def hearBytes : (budget : Nat) → MainLoop ω → List Heard
  | 0, _ => []
  | budget + 1, l =>
    match c.board.receive l.world with
    | (some byte, world) =>
      c.hearByte outbox byte { l with world } ::
        hearBytes budget (c.takeByte byte { l with world })
    | (none, _) => []

theorem sent_takeEvent (event : Event) (l : MainLoop ω) : ∃ sent, Says c (some (.ok event)) sent ∧
    outbox.sent (c.takeEvent event l).world = outbox.sent l.world ++ sent := by
  unfold takeEvent
  cases event with
  | frame p =>
    have acked : outbox.sent (c.board.put ackOctet l.world) = outbox.sent l.world ++ [ackOctet] :=
      outbox.sent_send ackOctet l.world
    obtain ⟨answer, kind, dispatched⟩ : ∃ answer,
        (answer = [] ∨ ∃ reply, answer = wire c.config.crc reply) ∧
        outbox.sent (c.dispatch c.board.put p
          { l.toMachine with world := c.board.put ackOctet l.world }).2.world =
        outbox.sent (c.board.put ackOctet l.world) ++ answer :=
      outbox.tape.sent_dispatch p _
    dsimp only
    generalize (c.dispatch c.board.put p _).2 = s at dispatched ⊢
    refine ⟨ackOctet :: answer, ?_, ?_⟩
    · rcases kind with rfl | ⟨reply, rfl⟩
      · exact .taken p
      · exact .answered p reply
    · show outbox.sent (c.board.flush s.world).2 = _
      rw [outbox.sent_flush, dispatched, acked, List.append_assoc, List.singleton_append]
  | ack => exact ⟨[], .ack, (List.append_nil _).symm⟩
  | nak => exact ⟨[], .nak, (List.append_nil _).symm⟩
  | probe =>
    refine ⟨_, .identity l.device.address, ?_⟩
    show outbox.sent (c.board.flush (c.board.puts _ l.world)).2 = _
    rw [outbox.sent_flush, outbox.sent_puts]

theorem sent_takeByte (byte : UInt8) (l : MainLoop ω) :
    ∃ sent, Says c (l.receiver.feed c.config.crc byte).2 sent ∧
      outbox.sent (c.takeByte byte l).world = outbox.sent l.world ++ sent := by
  unfold takeByte
  rcases l.receiver.feed c.config.crc byte with ⟨receiver, none | fault | event⟩
  · exact ⟨[], .silence, (List.append_nil _).symm⟩
  · exact ⟨_, .fault fault, outbox.sent_send fault.reply l.world⟩
  · exact c.sent_takeEvent outbox event { l with receiver }

theorem hearByte_said (byte : UInt8) (l : MainLoop ω) :
    Says c (l.receiver.feed c.config.crc byte).2 (c.hearByte outbox byte l).sent := by
  obtain ⟨sent, said, took⟩ := c.sent_takeByte outbox byte l
  have heard : (c.hearByte outbox byte l).sent = sent := by
    unfold hearByte
    rw [took, List.drop_left]
  rw [heard]
  exact said

end Cube

/-! ## Runs -/

/-- The line was served since the main loop was new, and `log` is what was heard of it. Machines may come
with any past, and between two calls everything but the receiver may change. -/
inductive Served {ω : Type} (c : Cube ω) (outbox : Outbox c.board) :
    List Heard → MainLoop ω → Prop where
  | new (s : Machine ω) : Served c outbox [] { s with }
  | call {log : List Heard} {l : MainLoop ω} (run : Served c outbox log l) :
    Served c outbox (log ++ c.hearBytes outbox Cube.serialBudget l) (c.processSerial l)
  | between {log : List Heard} {l l' : MainLoop ω} (run : Served c outbox log l)
    (same : l'.receiver = l.receiver) : Served c outbox log l'

/-- A frame is open at the end of a log: a start octet came, and after it neither another one nor a
reply. -/
def Open (log : List Heard) : Prop :=
  ∃ earlier start quiet, log = earlier ++ start :: quiet ∧ start.byte = startOctet ∧
    start.reply = none ∧ ∀ e ∈ quiet, e.byte ≠ startOctet ∧ e.reply = none

theorem open_push {log : List Heard} {e : Heard} : Open (log ++ [e]) ↔
    e.reply = none ∧ (e.byte = startOctet ∨ Open log) := by
  constructor
  · rintro ⟨earlier, start, quiet, split, starts, unreplied, still⟩
    rcases List.eq_nil_or_concat quiet with rfl | ⟨front, last, rfl⟩
    · obtain ⟨-, same⟩ := List.append_inj' split rfl
      cases same
      exact ⟨unreplied, .inl starts⟩
    · rw [List.concat_eq_append, ← List.cons_append, ← List.append_assoc] at split
      obtain ⟨rfl, same⟩ := List.append_inj' split rfl
      cases same
      refine ⟨(still e (by simp)).2, .inr ⟨earlier, start, front, rfl, starts, unreplied, ?_⟩⟩
      exact fun e' mem => still e' (by simp [mem])
  · rintro ⟨unreplied, starts | ⟨earlier, start, quiet, rfl, starts, first, still⟩⟩
    · exact ⟨log, e, [], rfl, starts, unreplied, fun _ mem => absurd mem List.not_mem_nil⟩
    · by_cases again : e.byte = startOctet
      · exact ⟨_, e, [], rfl, again, unreplied, fun _ mem => absurd mem List.not_mem_nil⟩
      · refine ⟨earlier, start, quiet ++ [e], by simp, starts, first, fun e' mem => ?_⟩
        rcases List.mem_append.mp mem with old | new
        · exact still e' old
        · rw [List.mem_singleton.mp new]
          exact ⟨again, unreplied⟩

/-- What the receiver, which followed the bytes of a log, reports on one more. -/
def reportAfter (variant : Crc.Variant) (log : List Heard) (byte : UInt8) :
    Option (Except Fault Event) :=
  ((after variant ready (Heard.bytes log)).feed variant byte).2

/-- A byte is heard with what the bytes before it make of it, and a frame is open before it exactly when
the receiver is in one. -/
structure Faithful {ω : Type} (c : Cube ω) (before : List Heard) (e : Heard) : Prop where
  reply : e.reply = replyTo (reportAfter c.config.crc before e.byte)
  said : Says c (reportAfter c.config.crc before e.byte) e.sent
  opened : Open before ↔ (after c.config.crc ready (Heard.bytes before)).isInFrame = true

/-- The receiver followed the bytes of a faithful log. -/
structure Attended {ω : Type} (c : Cube ω) (log : List Heard) (l : MainLoop ω) : Prop where
  receiver : l.receiver = after c.config.crc ready (Heard.bytes log)
  opened : Open log ↔ l.receiver.isInFrame = true
  faithful : Along (Faithful c) log

variable {ω : Type} {c : Cube ω} {outbox : Outbox c.board} {log before middle later : List Heard}
  {e : Heard} {l : MainLoop ω}

theorem Heard.bytes_append (log more : List Heard) : bytes (log ++ more) = bytes log ++ bytes more :=
  List.map_append

theorem located_heard (variant : Crc.Variant) (log : List Heard) :
    Located (Heard.bytes log) (after variant ready (Heard.bytes log)) :=
  located_after variant (.idle 0 : Located [] ready) _

/-- One byte more keeps a log faithful. -/
theorem Attended.byte (outbox : Outbox c.board) (h : Attended c log l) (byte : UInt8) :
    Attended c (log ++ [c.hearByte outbox byte l]) (c.takeByte byte l) := by
  have located : Located (Heard.bytes log) l.receiver := h.receiver ▸ located_heard _ log
  have moved : (c.takeByte byte l).receiver =
      after c.config.crc ready (Heard.bytes (log ++ [c.hearByte outbox byte l])) := by
    rw [c.takeByte_receiver, h.receiver, Heard.bytes_append, after_append]
    rfl
  refine ⟨moved, ?_, h.faithful.push ⟨?_, ?_, h.receiver ▸ h.opened⟩⟩
  · rw [open_push, h.opened, c.takeByte_receiver, isInFrame_next c.config.crc located byte]
    -- on a start octet no reply is due
    have starts : byte = startOctet → replyTo (l.receiver.feed c.config.crc byte).2 = none := by
      rintro rfl
      rw [feed_start located.wf]
      rfl
    show replyTo (l.receiver.feed c.config.crc byte).2 = none ∧ (byte = startOctet ∨ _) ↔ _
    constructor
    · rintro ⟨unreplied, start | inside⟩
      · exact .inl start
      · exact .inr ⟨inside, unreplied⟩
    · rintro (start | ⟨inside, unreplied⟩)
      · exact ⟨starts start, .inl start⟩
      · exact ⟨unreplied, .inr inside⟩
  · unfold reportAfter
    rw [← h.receiver]
    rfl
  · unfold reportAfter
    rw [← h.receiver]
    exact c.hearByte_said outbox byte l

theorem Attended.bytes (outbox : Outbox c.board) (h : Attended c log l) (budget : Nat) :
    Attended c (log ++ c.hearBytes outbox budget l) (c.takeBytes budget l) := by
  -- The induction is on the budget; the log grows at its end while the budget is used up.
  induction budget generalizing log l with
  | zero => exact (List.append_nil log).symm ▸ h
  | succ budget ih =>
    unfold Cube.hearBytes Cube.takeBytes
    rcases c.board.receive l.world with ⟨none | byte, world⟩
    · rw [List.append_nil]
      exact ⟨h.receiver, h.opened, h.faithful⟩
    · have read : Attended c log { l with world } := ⟨h.receiver, h.opened, h.faithful⟩
      have rest := ih (read.byte outbox byte)
      rw [List.append_assoc] at rest
      exact rest

theorem Served.attended (run : Served c outbox log l) : Attended c log l := by
  induction run with
  | new s =>
    refine ⟨rfl, iff_of_false ?_ Bool.false_ne_true, along_nil⟩
    rintro ⟨earlier, start, quiet, split, -⟩
    cases earlier <;> cases split
  | call _ ih => exact ih.bytes outbox Cube.serialBudget
  | between _ same ih => exact ⟨same.trans ih.receiver, same ▸ ih.opened, ih.faithful⟩

/-! ## The discipline -/

/-- The discipline of the reply to a byte behind those `before`. An acknowledgement answers the end of a
frame, a spoiled one or one that is too long, and a refusal what begins no frame or ends a damaged one;
each belongs to a start octet that nothing answered yet. Besides these octets only the frame of an answer
and the identity are sent, and nothing on the octets of a peer's reply between frames. -/
structure Disciplined (c : Cube ω) (before : List Heard) (e : Heard) : Prop where
  ack : e.reply = some ackOctet ↔
    (∃ p : List UInt8, p.length ≤ capacity ∧ wire c.config.crc p <:+ Heard.bytes before ++ [e.byte]) ∨
      Shows c.config.crc (Heard.bytes before ++ [e.byte]) .invalidDigit ∨
      Shows c.config.crc (Heard.bytes before ++ [e.byte]) .overflow
  nak : e.reply = some nakOctet ↔
    Shows c.config.crc (Heard.bytes before ++ [e.byte]) .notAPacket ∨
      Shows c.config.crc (Heard.bytes before ++ [e.byte]) .badChecksum
  octet : e.reply = none ∨ e.reply = some ackOctet ∨ e.reply = some nakOctet
  started : e.reply ≠ none → e.byte ≠ startOctet ∧ Open before
  sent : e.sent = e.reply.toList ∨
    (∃ p answer : List UInt8, e.reply = some ackOctet ∧ p.length ≤ capacity ∧
      wire c.config.crc p <:+ Heard.bytes before ++ [e.byte] ∧
      e.sent = ackOctet :: wire c.config.crc answer) ∨
    ∃ address, e.reply = none ∧ e.sent = identity (textBytes c.config.identity.text) address
  peer : ¬Open before → e.byte = ackOctet ∨ e.byte = nakOctet → e.sent = []

theorem Faithful.disciplined (h : Faithful c before e) : Disciplined c before e := by
  have located := located_heard c.config.crc before
  have fault : ∀ fault, reportAfter c.config.crc before e.byte = some (.error fault) ↔
      Shows c.config.crc (Heard.bytes before ++ [e.byte]) fault :=
    reports_fault_iff c.config.crc (Heard.bytes before) e.byte
  have frame : ∀ p, reportAfter c.config.crc before e.byte = some (.ok (.frame p)) ↔
      p.length ≤ capacity ∧ wire c.config.crc p <:+ Heard.bytes before ++ [e.byte] :=
    reports_iff c.config.crc (Heard.bytes before) e.byte
  have said := h.said
  constructor
  case ack =>
    rw [h.reply, replyTo_eq_ack, fault, fault]
    simp only [frame]
  case nak => rw [h.reply, replyTo_eq_nak, fault, fault]
  case octet =>
    rw [h.reply]
    rcases reportAfter c.config.crc before e.byte with _ | fault | event
    · exact .inl rfl
    · cases fault <;> simp [replyTo, Fault.reply]
    · cases event <;> simp [replyTo]
  case started =>
    intro replied
    rw [h.reply] at replied
    obtain ⟨plain, inside⟩ := of_replyTo c.config.crc located replied
    exact ⟨plain, h.opened.mpr inside⟩
  case sent =>
    rw [h.reply]
    generalize reported : reportAfter c.config.crc before e.byte = report at said frame
    generalize e.sent = sent at said
    cases said with
    | silence | ack | nak | taken | fault => exact .inl rfl
    | answered p answer =>
      obtain ⟨fits, ends⟩ := (frame p).mp rfl
      exact .inr (.inl ⟨p, answer, rfl, fits, ends, rfl⟩)
    | identity address => exact .inr (.inr ⟨address, rfl, rfl⟩)
  case peer =>
    intro closed acknowledges
    obtain ⟨matched, idle⟩ := located.idle_of_not_isInFrame fun inside => closed (h.opened.mpr inside)
    rcases acknowledges with ack | nak
    · have reported : reportAfter c.config.crc before e.byte = some (.ok .ack) := by
        unfold reportAfter
        rw [idle, ack]
        rfl
      exact said.of_quiet (.inr (.inl reported))
    · have reported : reportAfter c.config.crc before e.byte = some (.ok .nak) := by
        unfold reportAfter
        rw [idle, nak]
        rfl
      exact said.of_quiet (.inr (.inr reported))

/-- Behind a log and no start octet, at most one reply is sent, and only in a frame. -/
theorem replies_le (faithful : Along (Faithful c) (before ++ later))
    (plain : ∀ e ∈ later, e.byte ≠ startOctet) : (Heard.replies later).length ≤ 1 ∧
      (¬Open before → Heard.replies later = []) := by
  -- The induction is on what was heard later; the log before it grows by what is passed over.
  induction later generalizing before with
  | nil => exact ⟨Nat.zero_le 1, fun _ => rfl⟩
  | cons e rest ih =>
    have here := (faithful before e rest rfl).disciplined
    rw [show before ++ e :: rest = before ++ [e] ++ rest by simp] at faithful
    obtain ⟨few, nothing⟩ := ih faithful fun e' mem => plain e' (List.mem_cons_of_mem e mem)
    have passed : Open (before ++ [e]) ↔ e.reply = none ∧ Open before := by
      rw [open_push, or_iff_right (plain e List.mem_cons_self)]
    cases reply : e.reply with
    | none =>
      have same : Heard.replies (e :: rest) = Heard.replies rest := by simp [Heard.replies, reply]
      rw [same]
      exact ⟨few, fun closed => nothing fun opened => closed (passed.mp opened).2⟩
    | some octet =>
      have replied : e.reply ≠ none := by rw [reply]; rintro ⟨⟩
      have alone : Heard.replies rest = [] := nothing fun opened => replied (passed.mp opened).1
      have one : Heard.replies (e :: rest) = [octet] := by
        unfold Heard.replies at alone ⊢
        rw [List.filterMap_cons, reply, alone]
      exact ⟨by rw [one]; exact Nat.le_refl 1, fun closed => absurd (here.started replied).2 closed⟩

/-- On bytes on which the receiver reports nothing, nothing is sent. -/
theorem sent_of_silent (faithful : Along (Faithful c) (before ++ later))
    (silent : Silent c.config.crc (after c.config.crc ready (Heard.bytes before)) (Heard.bytes later)) :
    ∀ e ∈ later, e.sent = [] := by
  induction later generalizing before with
  | nil => exact fun e mem => absurd mem List.not_mem_nil
  | cons e rest ih =>
    obtain ⟨unreported, rest'⟩ := silent
    have unsent : e.sent = [] := (faithful before e rest rfl).said.of_quiet (.inl unreported)
    have passed : next c.config.crc (after c.config.crc ready (Heard.bytes before)) e.byte =
        after c.config.crc ready (Heard.bytes (before ++ [e])) := by
      rw [Heard.bytes_append, after_append]
      rfl
    rw [show before ++ e :: rest = before ++ [e] ++ rest by simp] at faithful
    rw [passed] at rest'
    intro e' mem
    rcases List.mem_cons.mp mem with rfl | more
    · exact unsent
    · exact ih faithful rest' e' more

/-- A frame that announces more than fits is answered by one octet, at the first byte that does not fit. -/
theorem overlong_replies (faithful : Along (Faithful c) (before ++ middle)) {length : UInt16}
    {bytes trailer : List UInt8} (large : capacity < length.toNat) (all : bytes.length = length.toNat)
    (frame : Heard.bytes middle =
      [startOctet, openOctet] ++ announced length bytes ++ Hex.encode trailer) :
    ∃ front excess rest, middle = front ++ excess :: rest ∧
      Heard.bytes (front ++ [excess]) =
        [startOctet, openOctet] ++ announced length (bytes.take (capacity + 1)) ∧
      excess.sent = [ackOctet] ∧ ∀ e ∈ front ++ rest, e.sent = [] := by
  have wf := after_ready_wf c.config.crc (Heard.bytes before)
  obtain ⟨front, last, rest, split, upTo, silent, overflow, quiet⟩ :=
    overlong_frame c.config.crc wf trailer large all
  rw [split] at frame
  obtain ⟨heardFront, tail, rfl, rfl, heardTail⟩ := List.map_eq_append_iff.mp frame
  obtain ⟨excess, heardRest, rfl, rfl, rfl⟩ := List.map_eq_cons_iff.mp heardTail
  have atOver : (after c.config.crc ready (Heard.bytes (before ++ heardFront))).feed c.config.crc
      excess.byte = (stuck, some (.error .overflow)) := by
    rw [Heard.bytes_append, after_append]
    exact overflow
  have pieces : before ++ (heardFront ++ excess :: heardRest) =
      before ++ heardFront ++ [excess] ++ heardRest := by simp
  rw [pieces] at faithful
  have upToOver := (along_append.mp faithful).1
  have upToFront := (along_append.mp upToOver).1
  have reported : reportAfter c.config.crc (before ++ heardFront) excess.byte =
      some (.error .overflow) := by
    unfold reportAfter
    rw [atOver]
  have said := (upToOver (before ++ heardFront) excess [] rfl).said
  rw [reported] at said
  -- the fault resets the receiver, which takes the rest as octets between frames
  have reset : after c.config.crc ready (Heard.bytes (before ++ heardFront ++ [excess])) = ready := by
    rw [Heard.bytes_append, after_append]
    show next c.config.crc (after c.config.crc ready _) excess.byte = ready
    unfold next
    rw [atOver]
    rfl
  refine ⟨heardFront, excess, heardRest, rfl, ?_, said.of_fault, ?_⟩
  · rw [Heard.bytes_append]
    exact upTo
  · intro e mem
    rcases List.mem_append.mp mem with early | late
    · exact sent_of_silent upToFront silent e early
    · exact sent_of_silent faithful (reset.symm ▸ quiet) e late

/-- **Discipline of replies.** In every run of the serial line over a new main loop, every byte is
answered as the bytes up to it say, a start octet leads to one single-octet reply at most, before the next
start octet comes, and no call leaves the receiver stuck. A frame that announces more than fits, of any
length and with any payload and trailer, is acknowledged once, at the first byte that does not fit, and
nothing else is sent on it. -/
theorem reply_discipline (run : Served c outbox log l) :
    l.receiver.isStuck = false ∧
    (∀ before e later, log = before ++ e :: later → Disciplined c before e) ∧
    (∀ before start quiet later, log = before ++ start :: quiet ++ later →
      start.byte = startOctet → (∀ e ∈ quiet, e.byte ≠ startOctet) →
        (Heard.replies (start :: quiet)).length ≤ 1) ∧
    ∀ before middle later (length : UInt16) (bytes trailer : List UInt8),
      log = before ++ middle ++ later → capacity < length.toNat → bytes.length = length.toNat →
      Heard.bytes middle = [startOctet, openOctet] ++ Hex.encode (Word.toBytes 2 length.toNat) ++
        Hex.encode bytes ++ Hex.encode trailer →
      ∃ front excess rest, middle = front ++ excess :: rest ∧
        Heard.bytes (front ++ [excess]) = [startOctet, openOctet] ++
          Hex.encode (Word.toBytes 2 length.toNat) ++ Hex.encode (bytes.take (capacity + 1)) ∧
        excess.sent = [ackOctet] ∧ ∀ e ∈ front ++ rest, e.sent = [] := by
  obtain ⟨receiver, -, faithful⟩ := run.attended
  refine ⟨?_, ?_, ?_, ?_⟩
  · have wf := after_ready_wf c.config.crc (Heard.bytes log)
    rw [receiver]
    cases held : after c.config.crc ready (Heard.bytes log) with
    | stuck => exact (held ▸ wf).elim
    | _ => rfl
  · intro before e later split
    exact (faithful before e later split).disciplined
  · intro before start quiet later split starts plain
    have unreplied : start.reply = none := by
      have here := (faithful before start (quiet ++ later) (by rw [split]; simp)).disciplined
      cases reply : start.reply with
      | none => rfl
      | some octet => exact absurd starts (here.started (by rw [reply]; rintro ⟨⟩)).1
    rw [split, show before ++ start :: quiet ++ later = before ++ [start] ++ quiet ++ later by simp]
      at faithful
    have few := (replies_le (along_append.mp faithful).1 plain).1
    have same : Heard.replies (start :: quiet) = Heard.replies quiet := by
      simp [Heard.replies, unreplied]
    rw [same]
    exact few
  · intro before middle later length bytes trailer split large all frame
    rw [split] at faithful
    have upTo := (along_append.mp faithful).1
    have announces : ∀ bytes, [startOctet, openOctet] ++ announced length bytes =
        [startOctet, openOctet] ++ Hex.encode (Word.toBytes 2 length.toNat) ++ Hex.encode bytes :=
      fun bytes => by rw [announced, List.append_assoc]
    simp only [← announces] at frame ⊢
    exact overlong_replies upTo large all frame

namespace Bench

/-- A frame that announces one byte more than fits. -/
def overlongFrame : List UInt8 :=
  [startOctet, openOctet] ++ Hex.encode (Word.toBytes 2 33) ++ Hex.encode (List.replicate 33 0xA7) ++
    Hex.encode [0xA7, 0x4B]

/-- A new main loop of the sample cube, with the overlong frame on its line. -/
def floodedLoop : MainLoop World :=
  sampleCube.mainLoop { world := { inbox := overlongFrame } }

/-- What two calls hear of it. -/
def floodedLog : List Heard :=
  sampleCube.hearBytes sampleOutbox Cube.serialBudget floodedLoop ++
    sampleCube.hearBytes sampleOutbox Cube.serialBudget (sampleCube.processSerial floodedLoop)

theorem floodedLog_served : Served sampleCube sampleOutbox floodedLog
    (sampleCube.processSerial (sampleCube.processSerial floodedLoop)) :=
  (Served.new (sampleCube.machine { world := { inbox := overlongFrame } })).call.call

/-- The frame is heard across two calls and acknowledged once. -/
theorem floodedLog_acknowledged : Heard.bytes floodedLog = overlongFrame ∧
    ∃ front excess rest, floodedLog = front ++ excess :: rest ∧ excess.sent = [ackOctet] ∧
      ∀ e ∈ front ++ rest, e.sent = [] := by
  have heard : Heard.bytes floodedLog = overlongFrame := by decide +kernel
  obtain ⟨front, excess, rest, split, -, acknowledged, silent⟩ :=
    (reply_discipline floodedLog_served).2.2.2 [] floodedLog [] 33 (List.replicate 33 0xA7)
      [0xA7, 0x4B] (List.append_nil _).symm (by decide) rfl heard
  exact ⟨heard, front, excess, rest, split, acknowledged, silent⟩

end Bench

end VoxelCube
