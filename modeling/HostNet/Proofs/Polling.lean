import HostNet.Proofs.Simulation.Runs
import HostNet.Proofs.Storms.Crossed

/-!
# Polling

A poll takes one frame off the link and processes just that frame.  The receive buffer that
the frame goes through is never cleared, and the handlers that are called may poll themselves,
so that what earlier frames left in the buffer might show where a poll is inside of another.
It does not, since nothing is ever read from the buffer but the frame just written to it.

* `Simulation.leftovers`, `Simulation.unread` — the simulations of hosts that differ in what
  their receive buffers hold, and of hosts that differ in frames that neither comes to.
* `Host.SameButBuffer` — two hosts that differ in what their receive buffers hold.
* `Host.arrive` — a frame processed in a fresh packet, with no link.
* `Host.pollAll` — polling so often.
* `poll_of_queue`, `poll_of_empty`, `poll_of_fault` — what one poll does.
* `pollAll_of_queue` — polls that come to frames one after another.
* `poll_takes_one_frame` — what polls do in every state of a host.

### Frames one after another

Which frame the next poll comes to depends on the handlers, which may take frames themselves.
Where they leave the link alone a sequence of polls can be told without a link: the frames
arrive one after another, and the frames behind them have no part in it.
-/

namespace HostNet

/-- Whether an action neither receives anything nor changes what can be received. -/
def Action.LeavesLink : Action → Prop
  | .inject _ => False
  | .poll => False
  | .deliver _ => False
  | .setLink _ _ => False
  | _ => True

/-- What waits on a link has no part in sending. -/
theorem Link.send_setQueue (l : Link) (queue : List Bytes) (frame : Bytes) :
    { l with queue }.send frame = ({ (l.send frame).1 with queue }, (l.send frame).2) := by
  unfold send
  cases l.sendFault l.attempts with
  | none => rfl
  | some cause => rfl

/-! ### Two simulations -/

namespace Simulation

/-- Receive buffers that hold whatever they do. -/
def leftovers : Simulation where
  allows _ := True
  links l l' := l' = l
  buffers _ _ := True
  traces t t' := t' = t
  record r _ _ _ := congrArg (r :: ·)
  send _ _ frame := congrArg fun l : Link => (l.send frame).1
  transmit l l' t t' time frame := by
    rintro rfl rfl
    rfl
  receive l l' capacity _ := by
    rintro rfl
    exact ⟨rfl, rfl⟩
  fill _ _ _ _ _ := trivial
  inject _ _ frame _ := congrArg (Link.inject · frame)
  deliver _ _ := ⟨trivial, trivial⟩
  setLink l l' send receive _ := by
    rintro rfl
    rfl
  countSent _ _ _ := congrArg fun l : Link => l.sent.size

/-- Frames that wait on two links, and stay there. -/
def unread (queue queue' : List Bytes) : Simulation where
  allows := Action.LeavesLink
  links l l' := l.receiveFault = none ∧ l.queue = queue ∧ l' = { l with queue := queue' }
  buffers b b' := b' = b
  traces t t' := t' = t
  record r _ _ _ := congrArg (r :: ·)
  send l l' frame := by
    rintro ⟨hfault, hqueue, rfl⟩
    rw [l.send_setQueue queue']
    exact ⟨(l.receiveFault_send frame).trans hfault, (l.queue_send frame).trans hqueue, rfl⟩
  transmit l l' t t' time frame := by
    rintro ⟨-, -, rfl⟩ rfl
    rw [l.send_setQueue]
  receive _ _ _ hallowed := hallowed.elim
  fill _ _ _ hallowed := hallowed.elim
  inject _ _ _ hallowed := hallowed.elim
  deliver _ hallowed := hallowed.elim
  setLink _ _ _ _ hallowed := hallowed.elim
  countSent l l' _ := by
    rintro ⟨-, -, rfl⟩
    rfl

end Simulation

namespace Host

/-- **Two hosts that differ in nothing** but in what their receive buffers hold. -/
def SameButBuffer (h h' : Host) : Prop :=
  ∃ rxBuffer rxBuffer_length, h' = { h with rxBuffer, rxBuffer_length }

/-- The host after a frame was processed in a fresh packet, which no link had to do with.  It
does not take one that is longer than the longest frame. -/
def arrive (depth : Nat) (h : Host) (frame : Bytes) : Host :=
  if frame.length ≤ h.config.maxFrame then
    (h.exec depth (.receiveFrame (Packet.ofPayload 0 frame))).1
  else h

/-- What is replied to a poll that comes to a frame. -/
def replyTo (config : Config) (frame : Bytes) : Reply :=
  if frame.length ≤ config.maxFrame then .polled true
  else .failed (.oversized frame.length config.maxFrame)

/-- The host after polling so often, and what it replied, the first reply first. -/
def pollAll (depth : Nat) : Nat → Host → Host × List Reply
  | 0, h => (h, [])
  | times + 1, h =>
      let polled := h.exec depth .poll
      let rest := pollAll depth times polled.1
      (rest.1, polled.2 :: rest.2)

end Host

/-- Frames arrive in the same way at hosts that do the same. -/
theorem Simulation.Related.arrive {m : Simulation} {h h' : Host} (s : m.Related h h')
    (hallowed : ∀ packet, m.allows (.receiveFrame packet)) (depth : Nat) (frame : Bytes) :
    m.Related (h.arrive depth frame) (h'.arrive depth frame) := by
  have hreceived := (s.exec depth (.receiveFrame (Packet.ofPayload 0 frame)) (by
    rw [Action.Throughout.eq_def]
    exact hallowed _)).1
  obtain ⟨link, rxBuffer, trace, rxBuffer_length, rfl⟩ := s.unchanged
  unfold Host.arrive
  split
  · exact hreceived
  · exact s

namespace Host

/-! ### What is left in the buffer -/

variable {h h' h₁ : Host}

namespace SameButBuffer

theorem refl (h : Host) : SameButBuffer h h := ⟨h.rxBuffer, h.rxBuffer_length, rfl⟩

theorem trans (first : SameButBuffer h h') (second : SameButBuffer h' h₁) :
    SameButBuffer h h₁ := by
  obtain ⟨_, _, rfl⟩ := first
  obtain ⟨rxBuffer, rxBuffer_length, rfl⟩ := second
  exact ⟨rxBuffer, rxBuffer_length, rfl⟩

theorem taking (same : SameButBuffer h h') (rest : List Bytes) :
    SameButBuffer (h.taking rest) (h'.taking rest) := by
  obtain ⟨rxBuffer, rxBuffer_length, rfl⟩ := same
  exact ⟨rxBuffer, rxBuffer_length, rfl⟩

theorem related (same : SameButBuffer h h') : Simulation.leftovers.Related h h' := by
  obtain ⟨rxBuffer, rxBuffer_length, rfl⟩ := same
  exact
    { unchanged := ⟨h.link, rxBuffer, h.trace, rxBuffer_length, rfl⟩
      links := by rfl
      buffers := trivial
      traces := by rfl
      answers := .of_forall (fun _ => trivial) (fun _ => trivial) h }

theorem of_related (s : Simulation.leftovers.Related h h') : SameButBuffer h h' := by
  have hlink := s.links
  have htrace := s.traces
  obtain ⟨link, rxBuffer, trace, rxBuffer_length, rfl⟩ := s.unchanged
  cases hlink
  cases htrace
  exact ⟨rxBuffer, rxBuffer_length, rfl⟩

/-- **What is left in the buffer is never read**, whatever the host is asked for and however
often its handlers poll. -/
theorem exec (same : SameButBuffer h h') (depth : Nat) (action : Action) :
    SameButBuffer (h.exec depth action).1 (h'.exec depth action).1 ∧
      (h'.exec depth action).2 = (h.exec depth action).2 := by
  obtain ⟨hdone, hreply⟩ := same.related.exec depth action
    (Action.throughout_of_forall (fun _ => trivial) (fun _ => trivial) action)
  exact ⟨of_related hdone, hreply⟩

/-- Nor is it by any number of polls. -/
theorem pollAll (same : SameButBuffer h h') (depth times : Nat) :
    SameButBuffer (h.pollAll depth times).1 (h'.pollAll depth times).1 ∧
      (h'.pollAll depth times).2 = (h.pollAll depth times).2 := by
  induction times generalizing h h' with
  | zero => exact ⟨same, rfl⟩
  | succ times ih =>
      obtain ⟨hpolled, hreply⟩ := same.exec depth .poll
      obtain ⟨hrest, hreplies⟩ := ih hpolled
      exact ⟨hrest, congrArg₂ List.cons hreply hreplies⟩

theorem foldl_arrive (same : SameButBuffer h h') (depth : Nat) (frames : List Bytes) :
    SameButBuffer (frames.foldl (arrive depth) h) (frames.foldl (arrive depth) h') := by
  induction frames generalizing h h' with
  | nil => exact same
  | cons frame rest ih =>
      exact ih (of_related (same.related.arrive (fun _ => trivial) depth frame))

end SameButBuffer

/-! ### One poll -/

theorem poll_of_fault (depth : Nat) {cause : LinkError}
    (hfault : h.link.receiveFault = some cause) :
    h.exec depth .poll = (h, .failed cause) := by
  have hreceive : h.link.receive h.rxBuffer.length = (h.link, .error cause) := by
    rw [Link.receive, hfault]
  show h.poll (runner depth) = (h, .failed cause)
  rw [poll, hreceive]

theorem poll_of_empty (depth : Nat) (hfault : h.link.receiveFault = none)
    (hqueue : h.link.queue = []) : h.exec depth .poll = (h, .polled false) := by
  show h.poll (runner depth) = (h, .polled false)
  rw [poll, receive_of_empty hqueue hfault]

theorem poll_of_oversized (depth : Nat) {frame : Bytes} {rest : List Bytes}
    (hfault : h.link.receiveFault = none) (hqueue : h.link.queue = frame :: rest)
    (hlong : h.config.maxFrame < frame.length) :
    h.exec depth .poll =
      (h.taking rest, .failed (.oversized frame.length h.config.maxFrame)) := by
  rw [← h.rxBuffer_length] at hlong ⊢
  show h.poll (runner depth) = _
  rw [poll, receive_of_oversized hqueue hfault hlong]
  rfl

/-- **A frame that fits is processed** as it would be in a fresh packet. -/
theorem poll_of_fit (depth : Nat) {frame : Bytes} {rest : List Bytes}
    (hfault : h.link.receiveFault = none) (hqueue : h.link.queue = frame :: rest)
    (hfit : frame.length ≤ h.config.maxFrame) :
    (h.exec depth .poll).2 = .polled true ∧
      SameButBuffer ((h.taking rest).exec depth (.receiveFrame (Packet.ofPayload 0 frame))).1
        (h.exec depth .poll).1 := by
  obtain ⟨rxBuffer_length, hpoll⟩ := poll_of_receive_splice h (runner depth)
    (receive_of_queue hqueue hfault (hfit.trans (Nat.le_of_eq h.rxBuffer_length.symm)))
  have hfilled : SameButBuffer (h.taking rest)
      { h.taking rest with rxBuffer := h.rxBuffer.splice 0 frame, rxBuffer_length } :=
    ⟨_, rxBuffer_length, rfl⟩
  show (h.poll (runner depth)).2 = .polled true ∧ SameButBuffer _ (h.poll (runner depth)).1
  rw [hpoll]
  exact ⟨rfl, (hfilled.exec depth (.receiveFrame (Packet.ofPayload 0 frame))).1⟩

/-- **A poll that comes to a frame** takes it off the link, and lets it arrive. -/
theorem poll_of_queue (depth : Nat) {frame : Bytes} {rest : List Bytes}
    (hfault : h.link.receiveFault = none) (hqueue : h.link.queue = frame :: rest) :
    (h.exec depth .poll).2 = replyTo h.config frame ∧
      SameButBuffer ((h.taking rest).arrive depth frame) (h.exec depth .poll).1 := by
  have hconfig : (h.taking rest).config = h.config := rfl
  rw [replyTo, arrive, hconfig]
  by_cases hfit : frame.length ≤ h.config.maxFrame
  · rw [if_pos hfit, if_pos hfit]
    exact poll_of_fit depth hfault hqueue hfit
  · rw [if_neg hfit, if_neg hfit, poll_of_oversized depth hfault hqueue (Nat.not_le.1 hfit)]
    exact ⟨rfl, .refl _⟩

/-! ### Polls one after another -/

theorem taking_self (h : Host) : h.taking h.link.queue = h := rfl

/-- Frames that wait behind others stay behind them. -/
theorem unread_related (answers : h.AnswersBy Action.LeavesLink fun _ => True)
    (hfault : h.link.receiveFault = none) (queue queue' : List Bytes) :
    (Simulation.unread queue queue').Related (h.taking queue) (h.taking queue') where
  unchanged := ⟨_, h.rxBuffer, h.trace, h.rxBuffer_length, rfl⟩
  links := ⟨hfault, rfl, rfl⟩
  buffers := by rfl
  traces := by rfl
  answers := answers.congr rfl rfl rfl

/-- What such hosts come down to. -/
theorem eq_taking_of_unread {queue queue' : List Bytes}
    (s : (Simulation.unread queue queue').Related h h') : h' = h.taking queue' := by
  obtain ⟨-, -, hlink⟩ := s.links
  have hbuffer := s.buffers
  have htrace := s.traces
  obtain ⟨link, rxBuffer, trace, rxBuffer_length, rfl⟩ := s.unchanged
  cases hbuffer
  cases htrace
  cases hlink
  rfl

/-- **Polls that come to frames one after another** let them arrive in this order, by induction
on the frames.  The frames behind them are where they were. -/
theorem pollAll_of_queue (depth : Nat) (frames rest : List Bytes)
    (answers : h.AnswersBy Action.LeavesLink fun _ => True)
    (hfault : h.link.receiveFault = none) (hqueue : h.link.queue = frames ++ rest) :
    (h.pollAll depth frames.length).2 = frames.map (replyTo h.config) ∧
      SameButBuffer ((frames.foldl (arrive depth) (h.taking [])).taking rest)
        (h.pollAll depth frames.length).1 := by
  induction frames generalizing h with
  | nil =>
      refine ⟨rfl, ?_⟩
      have hrest : h.link.queue = rest := hqueue
      show SameButBuffer (h.taking rest) h
      rw [← hrest, taking_self]
      exact .refl h
  | cons frame later ih =>
      obtain ⟨hreply, hpolled⟩ := poll_of_queue depth hfault hqueue
      have harrived : (Simulation.unread (later ++ rest) []).Related
          ((h.taking (later ++ rest)).arrive depth frame) ((h.taking []).arrive depth frame) :=
        (unread_related answers hfault _ _).arrive (fun _ => trivial) depth frame
      obtain ⟨hfault₁, hqueue₁, -⟩ := harrived.links
      have hbehind : SameButBuffer ((h.taking []).arrive depth frame)
          ((h.exec depth .poll).1.taking []) := by
        rw [eq_taking_of_unread harrived]
        exact hpolled.taking []
      have hconfig : (h.exec depth .poll).1.config = h.config :=
        (perform_strides (runner_strides depth) h .poll).steps.config_eq
      obtain ⟨rxBuffer, rxBuffer_length, hnext⟩ := hpolled
      obtain ⟨hreplies, hlater⟩ := ih (h := (h.exec depth .poll).1)
        (by
          rw [hnext]
          exact harrived.answers.congr rfl rfl rfl)
        (by
          rw [hnext]
          exact hfault₁)
        (by
          rw [hnext]
          exact hqueue₁)
      rw [hconfig] at hreplies
      exact ⟨congrArg₂ List.cons hreply hreplies,
        ((hbehind.foldl_arrive depth later).taking rest).trans hlater⟩

/-- **A poll is one frame, and just that frame.**  Take any host, whatever is left in its receive
buffer.  Where receiving fails, and where no frame waits, a poll changes nothing and says so.
Where a frame waits it is taken off the link.  One that is too long is dropped, which changes
nothing else.  Any other is processed as it would be in a fresh packet with no room before it,
with whatever its handlers do, and only the receive buffer may come to hold something else.
Polls do the same to hosts that differ in their receive buffers.  Where handlers leave the link
alone, polls let the frames arrive in their order, and the frames behind them play no part. -/
theorem poll_takes_one_frame (depth : Nat) (h : Host) :
    (∀ cause, h.link.receiveFault = some cause → h.exec depth .poll = (h, .failed cause)) ∧
      (h.link.receiveFault = none →
        (h.link.queue = [] → h.exec depth .poll = (h, .polled false)) ∧
          ∀ frame rest, h.link.queue = frame :: rest →
            (h.config.maxFrame < frame.length →
              h.exec depth .poll =
                (h.taking rest, .failed (.oversized frame.length h.config.maxFrame))) ∧
              (frame.length ≤ h.config.maxFrame →
                (h.exec depth .poll).2 = .polled true ∧
                  SameButBuffer
                    ((h.taking rest).exec depth (.receiveFrame (Packet.ofPayload 0 frame))).1
                    (h.exec depth .poll).1)) ∧
      (∀ h', SameButBuffer h h' → ∀ times,
        SameButBuffer (h.pollAll depth times).1 (h'.pollAll depth times).1 ∧
          (h'.pollAll depth times).2 = (h.pollAll depth times).2) ∧
      (h.AnswersBy Action.LeavesLink (fun _ => True) → h.link.receiveFault = none →
        ∀ frames rest, h.link.queue = frames ++ rest →
          (h.pollAll depth frames.length).2 = frames.map (replyTo h.config) ∧
            SameButBuffer ((frames.foldl (arrive depth) (h.taking [])).taking rest)
              (h.pollAll depth frames.length).1) := by
  refine ⟨fun cause hfault => poll_of_fault depth hfault, fun hfault => ⟨?_, ?_⟩, ?_, ?_⟩
  · exact poll_of_empty depth hfault
  · intro frame rest hqueue
    exact ⟨poll_of_oversized depth hfault hqueue, poll_of_fit depth hfault hqueue⟩
  · exact fun h' same times => same.pollAll depth times
  · exact fun answers hfault frames rest => pollAll_of_queue depth frames rest answers hfault

/-- A frame that is too long is dropped, and the one behind it is processed by the next poll,
with a buffer full of something else as well. -/
theorem poll_takes_one_frame_behind_oversized :
    ∃ config, Settings.build {} = .ok config ∧
      let h := silent config { queue := [Bytes.zeros 1515, [1, 2, 3]] }
      let h' : Host :=
        { h with
          rxBuffer := List.replicate config.maxFrame 0xff
          rxBuffer_length := List.length_replicate }
      (h.pollAll 0 2).2 = [.failed (.oversized 1515 1514), .polled true] ∧
        (h'.pollAll 0 2).2 = [.failed (.oversized 1515 1514), .polled true] ∧
          (h'.pollAll 0 2).1.link.queue = [] := by
  obtain ⟨config, hconfig⟩ : ∃ config, Settings.build {} = .ok config := ⟨_, rfl⟩
  have hmax : config.maxFrame = 1514 := by
    cases hconfig
    rfl
  refine ⟨config, hconfig, ?_⟩
  intro h h'
  have answers : h.AnswersBy Action.LeavesLink fun _ => True :=
    .of_hasOwnHandlers (silent_hasOwnHandlers config _) fun port _ hbound =>
      nomatch (Table.get?_empty port).symm.trans hbound
  obtain ⟨-, -, hbuffer, hfifo⟩ := poll_takes_one_frame 0 h
  obtain ⟨hreplies, harrived⟩ := hfifo answers rfl [Bytes.zeros 1515, [1, 2, 3]] [] rfl
  obtain ⟨hsame, hreplies'⟩ := hbuffer h' ⟨_, _, rfl⟩ 2
  have hlong : ¬ (Bytes.zeros 1515).length ≤ config.maxFrame := by
    rw [Bytes.length_zeros, hmax]
    decide
  have hfit : ([1, 2, 3] : Bytes).length ≤ config.maxFrame := by
    rw [hmax]
    decide
  have hexpected : (h.pollAll 0 2).2 = [.failed (.oversized 1515 1514), .polled true] := by
    refine hreplies.trans ?_
    show [replyTo config (Bytes.zeros 1515), replyTo config [1, 2, 3]] = _
    rw [replyTo, replyTo, if_neg hlong, if_pos hfit, Bytes.length_zeros, hmax]
  refine ⟨hexpected, hreplies'.trans hexpected, ?_⟩
  obtain ⟨rxBuffer, rxBuffer_length, hend⟩ := harrived.trans hsame
  rw [hend]
  rfl

end Host

end HostNet
