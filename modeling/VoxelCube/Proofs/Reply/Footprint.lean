/-
What a message may touch. Whatever its bytes, a message leaves the device as it is and does nothing to the
world but send bytes and read the store, unless its header gives the device a write of a cluster that is
served, or tells it the time. The time goes to the clock alone; a write reaches the mode, the marks, the
address, the alarm mask and, beyond the device, the store, the clock and the power. What the device
selects, its text and its mark to begin are never touched, and the cube with its configuration is no
part of what a message changes.
-/
import VoxelCube.Proofs.Device.Operation
import VoxelCube.Proofs.MainLoop.Power
import VoxelCube.Proofs.Message.Packets
import VoxelCube.Proofs.Reply.Changes
import VoxelCube.Proofs.Reply.Passes

namespace VoxelCube

/-! ## Ways to the world -/

/-- A way on which a message reaches the world of a device. -/
inductive Way where
  /-- A byte goes to the sink. -/
  | send
  | read
  | write
  /-- The time or the offset of the local time is set. -/
  | clock
  | power
  deriving DecidableEq, Repr

/-- The world is reached from `w` on these ways alone. -/
inductive Board.Reaches {ω : Type} (b : Board ω) (sink : Sink ω) (ways : List Way) (w : ω) :
    ω → Prop where
  | start : Reaches b sink ways w w
  | send {w' : ω} (h : Reaches b sink ways w w') (may : .send ∈ ways) (byte : UInt8) :
    Reaches b sink ways w (sink byte w')
  | read {w' : ω} (h : Reaches b sink ways w w') (may : .read ∈ ways) (key : Store.Key) (room : Nat) :
    Reaches b sink ways w (b.read key room w').2
  | write {w' : ω} (h : Reaches b sink ways w w') (may : .write ∈ ways) (key : Store.Key)
    (record : List UInt8) : Reaches b sink ways w (b.write key record w').2
  | setTime {w' : ω} (h : Reaches b sink ways w w') (may : .clock ∈ ways) (seconds : UInt32) :
    Reaches b sink ways w (b.setTime seconds w')
  | setZone {w' : ω} (h : Reaches b sink ways w w') (may : .clock ∈ ways) (offset : Int32) :
    Reaches b sink ways w (b.setZone offset w')
  | powerUp {w' : ω} (h : Reaches b sink ways w w') (may : .power ∈ ways) :
    Reaches b sink ways w (b.powerUp w')
  | powerDown {w' : ω} (h : Reaches b sink ways w w') (may : .power ∈ ways) :
    Reaches b sink ways w (b.powerDown w')

namespace Board.Reaches

variable {ω α : Type} {b : Board ω} {sink : Sink ω} {ways : List Way} {w w' : ω}

/-- What can be seen of a world stays as it is on ways that do not change it. -/
theorem view {see : ω → α} (h : b.Reaches sink ways w w')
    (send : .send ∈ ways → ∀ byte w, see (sink byte w) = see w)
    (read : .read ∈ ways → ∀ key room w, see (b.read key room w).2 = see w)
    (write : .write ∈ ways → ∀ key record w, see (b.write key record w).2 = see w)
    (clock : .clock ∈ ways → ∀ seconds offset w,
      see (b.setTime seconds w) = see w ∧ see (b.setZone offset w) = see w)
    (power : .power ∈ ways → ∀ w, see (b.powerUp w) = see w ∧ see (b.powerDown w) = see w) :
    see w' = see w := by
  induction h with
  | start => rfl
  | send _ may byte ih => exact (send may byte _).trans ih
  | read _ may key room ih => exact (read may key room _).trans ih
  | write _ may key record ih => exact (write may key record _).trans ih
  | setTime _ may seconds ih => exact (clock may seconds 0 _).1.trans ih
  | setZone _ may offset ih => exact (clock may 0 offset _).2.trans ih
  | powerUp _ may ih => exact (power may _).1.trans ih
  | powerDown _ may ih => exact (power may _).2.trans ih

end Board.Reaches

/-- All ways on which a message may reach the world. -/
def Way.all : List Way := [.send, .read, .write, .clock, .power]

/-- A device goes no other ways. -/
theorem Board.keeps_reaches {ω : Type} (b : Board ω) (sink : Sink ω) (w : ω) :
    b.Keeps (b.Reaches sink Way.all w) where
  read key room _ h := h.read (by decide) key room
  write key record _ h := h.write (by decide) key record
  setTime seconds _ h := h.setTime (by decide) seconds
  setZone offset _ h := h.setZone (by decide) offset
  powerUp _ h := h.powerUp (by decide)
  powerDown _ h := h.powerDown (by decide)

/-! ## Messages that change something -/

theorem Command.code_of_ofCode? {code : UInt8} {command : Command} (h : ofCode? code = some command) :
    command.code = code := by
  unfold ofCode? at h
  split at h <;> cases h <;> rfl

namespace Cube

variable {ω : Type} (c : Cube ω)

/-- The header of a message that tells a device with this address the time. -/
structure TellsTime (address : UInt64) (h : Header) : Prop where
  channel : h.channel = Header.deviceChannel
  address : h.address = address ∨ h.address = 0
  standard : h.isManufacturerSpecific = false
  profile : h.profile = c.config.profile
  endpoint : h.endpoint = c.config.configEndpoint
  cluster : h.cluster = Cluster.time.code
  command : h.command = Command.reportAttributes.code

variable {c} {address : UInt64} {h : Header}

theorem isAddressed_iff : isAddressed address h = true ↔ h.channel = Header.deviceChannel ∧
    (h.address = address ∨ h.address = 0) ∧ h.isManufacturerSpecific = false := by
  simp [isAddressed, and_assoc]

/-- A message that is not ignored is addressed to the device and of its profile; it goes to the clock when
it reports the time, and is replied to when it does not. -/
theorem route_of_heard (heard : c.route address h ≠ .ignore) : isAddressed address h = true ∧
    h.profile = c.config.profile ∧
      c.route address h = if c.isTimeReport h then .timeReport else .reply (c.replyFor h) := by
  unfold route at heard ⊢
  split at heard
  · exact absurd rfl heard
  rename_i mine
  split at heard
  · exact absurd rfl heard
  rename_i command
  have known : isAddressed address h = true ∧ h.profile = c.config.profile := by
    simpa using mine
  rw [if_neg mine, if_neg command]
  refine ⟨known.1, known.2, ?_⟩
  by_cases report : c.isTimeReport h = true
  · rw [if_pos report, if_pos report]
  rw [if_neg report] at heard
  rw [if_neg report, if_neg report]
  split at heard
  · rename_i default
    split at heard
    · exact absurd rfl heard
    · rename_i wanted
      rw [default]
      exact if_neg wanted
  · rfl

theorem TellsTime.of_route (routed : c.route address h = .timeReport) : c.TellsTime address h := by
  have heard : c.route address h ≠ .ignore := by
    rw [routed]
    rintro ⟨⟩
  obtain ⟨addressed, profile, goes⟩ := route_of_heard heard
  obtain ⟨channel, mine, standard⟩ := isAddressed_iff.mp addressed
  rw [routed] at goes
  split at goes
  · rename_i report
    simp only [isTimeReport, Bool.and_eq_true, beq_iff_eq] at report
    obtain ⟨⟨known, cluster⟩, endpoint⟩ := report
    exact ⟨channel, mine, standard, profile, endpoint, cluster, (Command.code_of_ofCode? known).symm⟩
  · cases goes

theorem TellsTime.route (tells : c.TellsTime address h) : c.route address h = .timeReport := by
  have addressed : isAddressed address h = true :=
    isAddressed_iff.mpr ⟨tells.channel, tells.address, tells.standard⟩
  have known : Command.ofCode? h.command = some .reportAttributes := by
    rw [tells.command, Command.ofCode?_code]
  have report : c.isTimeReport h = true := by
    simp [isTimeReport, known, tells.cluster, tells.endpoint]
  unfold Cube.route
  simp [addressed, tells.profile, known, report]

/-- A message gets a default reply, or the one of its command to the device about a cluster that is
served. -/
theorem replyFor_cases (h : Header) : (∃ status, c.replyFor h = .default h.command status) ∨
    ∃ command reply, c.replyFor h = reply ∧ replyOf? command = some reply ∧
      h.endpoint = c.config.endpoint ∧ Cluster.isServed h.cluster = true ∧
      Command.ofCode? h.command = some command := by
  unfold replyFor
  dsimp only
  split
  · rename_i mine
    split
    · rename_i known served
      exact .inr ⟨_, _, rfl, rfl, mine, served, known⟩
    · rename_i known served
      exact .inr ⟨_, _, rfl, rfl, mine, served, known⟩
    all_goals exact .inl ⟨_, rfl⟩
  · exact .inl ⟨_, rfl⟩

/-- A default reply is not given to a message that does not want one. -/
theorem wanted_of_route {code : UInt8} {status : Status}
    (routed : c.route address h = .reply (.default code status)) : h.disablesDefaultReply = false := by
  unfold route at routed
  split at routed
  · cases routed
  split at routed
  · cases routed
  split at routed
  · cases routed
  split at routed
  · split at routed
    · cases routed
    · rename_i wanted
      exact Bool.not_eq_true _ ▸ wanted
  · rename_i other
    exact absurd (Route.reply.inj routed) (other code status)

/-- A message that is replied to wants a default reply and gets one, or gives the device a command. -/
theorem Asks.of_route {reply : Reply} (routed : c.route address h = .reply reply) :
    (∃ status, reply = .default h.command status ∧ h.disablesDefaultReply = false) ∨
      ∃ command, replyOf? command = some reply ∧ c.Asks command address h := by
  have heard : c.route address h ≠ .ignore := by
    rw [routed]
    rintro ⟨⟩
  obtain ⟨addressed, profile, goes⟩ := route_of_heard heard
  obtain ⟨channel, mine, standard⟩ := isAddressed_iff.mp addressed
  have answered : reply = c.replyFor h := by
    rw [routed] at goes
    split at goes
    · cases goes
    · exact Route.reply.inj goes
  rcases c.replyFor_cases h with ⟨status, default⟩ | ⟨command, _, rfl, kind, endpoint, served, known⟩
  · rw [default] at answered
    rw [answered] at routed
    exact .inl ⟨status, answered, wanted_of_route routed⟩
  · rw [← answered] at kind
    exact .inr ⟨command, kind, channel, mine, standard, profile, endpoint, served,
      (Command.code_of_ofCode? known).symm⟩

theorem Asks.of_route_write (routed : c.route address h = .reply .write) :
    c.Asks .writeAttributes address h := by
  rcases Asks.of_route routed with ⟨status, default, -⟩ | ⟨command, kind, asks⟩
  · cases default
  · cases command <;> cases kind
    exact asks

/-- A message changes nothing unless it asks for a write or tells the time. -/
theorem changes_eq_nil {payload : List UInt8} {s : Machine ω}
    (other : ∀ h body, payload = h.encode ++ body →
      ¬c.Asks .writeAttributes s.device.address h ∧ ¬c.TellsTime s.device.address h) :
    c.changes payload s = [] := by
  unfold changes
  cases parsed : Packet.ofBytes? payload with
  | none => rfl
  | some packet =>
    obtain ⟨unasked, untold⟩ := other _ _ (Packet.ofBytes?_eq_some_iff.mp parsed)
    dsimp only
    cases routed : c.route s.device.address packet.header with
    | ignore => rfl
    | timeReport => exact absurd (TellsTime.of_route routed) untold
    | reply reply =>
      cases reply with
      | write => exact absurd (Asks.of_route_write routed) unasked
      | read | default command status => simp [replied]

end Cube

/-! ## What they may change -/

/-- A change leaves alone what a device selects, its text and its mark to begin. -/
theorem Cube.carryOut_device {ω : Type} (c : Cube ω) (s : Machine ω) (change : Change) :
    ∃ mode dirty address alarmMask,
    (c.carryOut change s).device = { s.device with mode, dirty, address, alarmMask } := by
  cases change with
  | mode mode =>
    by_cases same : s.device.mode = mode
    · have stays : c.carryOut (.mode mode) s = s := by
        rw [← same]
        exact c.setMode_same s
      exact ⟨s.device.mode, s.device.dirty, s.device.address, s.device.alarmMask, by rw [stays]⟩
    · exact ⟨_, _, _, _, c.setMode_device s same⟩
  | _ => exact ⟨_, _, _, _, rfl⟩

/-- **Footprint.** A message changes at most the mode, the marks, the address and the alarm mask of a
device, and reaches the world by sending bytes, by reading and writing the store, and by setting the clock
and switching the power. One that tells the time changes nothing but the clock. One that neither tells the
time nor asks the device for a write of a cluster that is served changes nothing: bytes are sent and the
store is read, if anything happens at all. -/
theorem dispatch_footprint {ω : Type} (c : Cube ω) (sink : Sink ω) (payload : List UInt8)
    (s : Machine ω) :
    let t := (c.dispatch sink payload s).2
    (∃ mode dirty address alarmMask, t.device = { s.device with mode, dirty, address, alarmMask }) ∧
    c.board.Reaches sink [.send, .read, .write, .clock, .power] s.world t.world ∧
    (∀ h body, payload = h.encode ++ body → c.TellsTime s.device.address h →
      t.device = s.device ∧ c.board.Reaches sink [.clock] s.world t.world) ∧
    ((∀ h body, payload = h.encode ++ body →
        ¬c.Asks .writeAttributes s.device.address h ∧ ¬c.TellsTime s.device.address h) →
      t.device = s.device ∧ c.board.Reaches sink [.send, .read] s.world t.world) := by
  intro t
  refine ⟨?_, ?_, ?_, ?_⟩
  · have keeps : c.Keeps sink fun t => ∃ mode dirty address alarmMask,
        t.device = { s.device with mode, dirty, address, alarmMask } := by
      refine .of_reads (fun _ _ h => h) (fun _ _ _ h => h) ?_ (fun _ _ h => h) (fun _ _ h => h)
      rintro cluster record change t - ⟨mode, dirty, address, alarmMask, device⟩
      obtain ⟨mode', dirty', address', alarmMask', changed⟩ := c.carryOut_device t change
      exact ⟨mode', dirty', address', alarmMask', by rw [changed, device]⟩
    exact keeps.dispatch payload s ⟨_, _, _, _, rfl⟩
  · have ways := c.board.keeps_reaches sink s.world
    have keeps : c.Keeps sink fun t => c.board.Reaches sink Way.all s.world t.world :=
      .of_reads (fun byte _ h => h.send (by decide) byte) (fun key room _ h => ways.read key room _ h)
        (fun _ _ change t _ h => ways.carryOut t change h) (fun seconds _ h => ways.setTime seconds _ h)
        (fun offset _ h => ways.setZone offset _ h)
    exact keeps.dispatch payload s .start
  · rintro h body rfl tells
    have told : t = { s with world := c.takeTimeReport body s.world } := by
      show (c.dispatch sink (h.encode ++ body) s).2 = _
      unfold Cube.dispatch
      rw [Packet.ofBytes?_encode]
      dsimp only
      rw [tells.route]
    rw [told]
    refine ⟨rfl, ?_⟩
    exact List.foldlRecOn (motive := c.board.Reaches sink [.clock] s.world) _ _ .start
      fun _ reached record _ => (reached.setTime (by decide) _).setZone (by decide) _
  · intro other
    -- as long as no change is made, bytes are sent and the store is read
    have tracks : c.Tracks sink fun made t => made = [] →
        t.device = s.device ∧ c.board.Reaches sink [.send, .read] s.world t.world := by
      refine ⟨fun byte made t h none => ?_, fun key room made t h none => ?_, fun _ made t _ none => ?_⟩
      · exact ⟨(h none).1, (h none).2.send (by decide) byte⟩
      · exact ⟨(h none).1, (h none).2.read (by decide) key room⟩
      · simp at none
    have start : ([] : List Change) = [] →
        s.device = s.device ∧ c.board.Reaches sink [.send, .read] s.world s.world :=
      fun _ => ⟨rfl, .start⟩
    exact tracks.dispatch payload start (by rw [Cube.changes_eq_nil other]; rfl)

namespace Bench

/-- A write of the mode, well formed and for every device, but of another profile. -/
def foreignHeader : Header := { sampleHeader .writeAttributes with profile := 1025 }

/-- What the sample board remembers for its device: the records, the clock and the power actions. -/
def keptFor (w : World) : (Vector (Option (List UInt8)) 5 × UInt32 × Int32) × List PowerAction :=
  ((w.world.records, w.world.clock, w.world.zone), sampleMeter.hooks w)

/-- The foreign write leaves the sample cube as it is, with all that its board remembers. -/
theorem foreignWrite_ignored :
    let t := (sampleCube.dispatch traySink (foreignHeader.encode ++ [0x01, 0x00, 0x30, 0x03]) newMachine).2
    t.device = newMachine.device ∧ keptFor t.world = keptFor newMachine.world := by
  have other : ∀ h body, foreignHeader.encode ++ [0x01, 0x00, 0x30, 0x03] = h.encode ++ body →
      ¬sampleCube.Asks .writeAttributes newMachine.device.address h ∧
        ¬sampleCube.TellsTime newMachine.device.address h := by
    intro h body same
    have read := Packet.ofBytes?_encode h body
    rw [← same, Packet.ofBytes?_encode] at read
    cases read
    exact ⟨fun asks => absurd asks.profile (by decide), fun tells => absurd tells.profile (by decide)⟩
  obtain ⟨device, reached⟩ := (dispatch_footprint sampleCube traySink _ newMachine).2.2.2 other
  refine ⟨device, reached.view (fun _ byte w => rfl) (fun _ key room w => ?_) ?_ ?_ ?_⟩
  · have same : (Memory.read key room w.world).2 = w.world := Memory.read_snd key room w.world
    have quiet : sampleMeter.hooks (sampleCube.board.read key room w).2 = sampleMeter.hooks w :=
      sampleMeter.read key room w
    exact Prod.ext (congrArg (fun m : Memory => (m.records, m.clock, m.zone)) same) quiet
  · exact fun may => absurd may (by decide)
  · exact fun may => absurd may (by decide)
  · exact fun may => absurd may (by decide)

end Bench

end VoxelCube
