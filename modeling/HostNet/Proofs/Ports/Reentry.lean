import HostNet.Proofs.Acceptance
import HostNet.Proofs.Ports.Calls

/-!
# No handler is called again before it returns

The handler of a port may do whatever a host can be asked, receive datagrams for its own port and
open or close that port included.  A datagram for a handler that has not returned is dropped,
and whatever becomes of the port in the meantime, the call goes on to its end.

* `Script.Completes` — replies that lead a script to its end.
* `History.repliesTo` — the replies that the handler of a binding was given.
* `runner_completes`, `receiveUdp_completes` — scripts, and calls of handlers, come to their
  end.
* `handlers_not_reentered` — in every run no handler is called before it has returned, it is
  the handler its port was opened with last that is called, and its call is completed.

### Why the replies tell that a call is completed

A script says what to do next by the reply to what was done last.  If the replies that its caller
was given lead to its end, then all that it asked for was done, in order.  Calls of other
handlers in between have replies of their own, which are told apart by the number of the
binding: as long as the handler has not returned, none of them is a call of the same binding.
-/

namespace HostNet

namespace Script

/-- The replies, one after another, lead to the end of the script. -/
inductive Completes : Script → List Reply → Prop where
  | done (memory : Nat) : Completes (.done memory) []
  | fail (cause : Packet.Error) : Completes (.fail cause) []
  | step (action : Action) {next : Reply → Script} {reply : Reply} {replies : List Reply}
      (rest : Completes (next reply) replies) : Completes (.step action next) (reply :: replies)

end Script

namespace History

/-- The reply that the handler of a binding was given. -/
def replyTo? (binding : Nat) : Record → Option Reply
  | ⟨_, .replied caller reply⟩ => if caller.binding? = some binding then some reply else none
  | _ => none

/-- The replies that the handler of a binding was given, the oldest first. -/
def repliesTo (binding : Nat) (block : List Record) : List Reply :=
  (block.filterMap (replyTo? binding)).reverse

theorem replyTo?_eq_none {binding : Nat} {r : Record} (hr : r.event.answered? ≠ some binding) :
    replyTo? binding r = none := by
  obtain ⟨time, event⟩ := r
  cases event with
  | replied caller reply => exact if_neg hr
  | _ => rfl

theorem repliesTo_eq_nil {binding : Nat} {block : List Record}
    (hblock : ∀ r ∈ block, r.event.answered? ≠ some binding) : repliesTo binding block = [] := by
  rw [repliesTo, List.filterMap_eq_nil_iff.2 fun r hr => replyTo?_eq_none (hblock r hr),
    List.reverse_nil]

theorem repliesTo_append (binding : Nat) (later earlier : List Record) :
    repliesTo binding (later ++ earlier) =
      repliesTo binding earlier ++ repliesTo binding later := by
  rw [repliesTo, List.filterMap_append, List.reverse_append, repliesTo, repliesTo]

theorem repliesTo_replied {binding time : Nat} {caller : Caller} {reply : Reply}
    (hcaller : caller.binding? = some binding) :
    repliesTo binding [⟨time, .replied caller reply⟩] = [reply] := by
  have hself : replyTo? binding ⟨time, .replied caller reply⟩ = some reply := if_pos hcaller
  rw [repliesTo, List.filterMap_cons_some hself, List.filterMap_nil, List.reverse_singleton]

end History

open History

namespace Host

/-! ### Calls come to their end -/

/-- A script whose actions leave the calls in progress as they are, and are all done, comes to
its end; by induction on it, along the replies that it is given. -/
theorem script_run_completes {exec : Action → Host → Host × Option Reply}
    (hexec : ∀ action h, Served none h (exec action h).1)
    (hdone : ∀ action h, (exec action h).2 ≠ none) {caller : Caller} {binding : Nat}
    (hcaller : caller.binding? = some binding) :
    ∀ (script : Script) (h : Host), binding ∈ h.running →
      ∃ block, (script.run exec caller h).1.trace = block ++ h.trace ∧
        script.Completes (repliesTo binding block)
  | .done memory, h, _ => ⟨[], rfl, .done memory⟩
  | .fail cause, h, _ => ⟨[⟨h.clock, .gaveUp caller cause⟩], rfl, .fail cause⟩
  | .step action next, h, hrunning => by
      have served := hexec action h
      have hreplied := hdone action h
      rw [Script.run]
      cases hreply : exec action h with
      | mk h₁ reply? =>
          rw [hreply] at served hreplied
          cases reply? with
          | none => exact absurd rfl hreplied
          | some reply =>
              have hrunning₁ : binding ∈ (h₁.emit (.replied caller reply)).running := by
                show binding ∈ h₁.running
                rw [served.running]
                exact hrunning
              obtain ⟨block, htrace, hcompletes⟩ := script_run_completes hexec hdone hcaller
                (next reply) (h₁.emit (.replied caller reply)) hrunning₁
              obtain ⟨new, hnew, hothers⟩ := served.replies
              refine ⟨block ++ ⟨h₁.clock, .replied caller reply⟩ :: new, ?_, ?_⟩
              · rw [htrace, List.append_assoc, List.cons_append, ← hnew]
                rfl
              · -- What the action brought about gave no reply to this caller.
                have hnone : repliesTo binding new = [] := repliesTo_eq_nil fun r hr =>
                  hothers r hr binding hrunning (Option.some_ne_none _).symm
                rw [List.append_cons, repliesTo_append, repliesTo_append, hnone,
                  repliesTo_replied hcaller]
                exact .step action hcompletes

/-- Whether the records are those of a script that comes to its end.  Only where no action is
done, since scripts are nested too deeply, it stops before. -/
def CallEnds (depth : Nat) (script : Script) (binding : Nat) (block : List Record) : Prop :=
  script.Completes (repliesTo binding block) ∨ depth = 0 ∧ ∃ r ∈ block, r.event = .tooDeep

/-- **Scripts of handlers come to their end** at any depth of nesting but the last. -/
theorem runner_completes (depth : Nat) {caller : Caller} {binding : Nat}
    (hcaller : caller.binding? = some binding) (script : Script) (h : Host)
    (hrunning : binding ∈ h.running) :
    ∃ block, (runner depth caller script h).1.trace = block ++ h.trace ∧
      CallEnds depth script binding block := by
  cases depth with
  | zero =>
      cases script with
      | done memory => exact ⟨[], rfl, .inl (.done memory)⟩
      | fail cause => exact ⟨[⟨h.clock, .gaveUp caller cause⟩], rfl, .inl (.fail cause)⟩
      | step action next =>
          exact ⟨[⟨h.clock, .tooDeep⟩], rfl, .inr ⟨rfl, _, List.mem_cons_self, rfl⟩⟩
  | succ depth =>
      let exec (action : Action) (h : Host) : Host × Option Reply :=
        ((h.perform (runner depth) action).1, some (h.perform (runner depth) action).2)
      have hexec : ∀ action h, Served none h (exec action h).1 := fun action h =>
        perform_served (runner_served depth) h action
      obtain ⟨block, htrace, hcompletes⟩ := script_run_completes hexec
        (fun action h => Option.some_ne_none _) hcaller script h hrunning
      exact ⟨block, htrace, .inl hcompletes⟩

/-- **A call of a handler** that is not in progress comes to its end, and then the handler
returns. -/
theorem receiveUdp_completes (depth : Nat) (h : Host) (p : Packet) (source : Ipv4Addr)
    (valid : Inbound.UdpValid h.config.ip source p.window) {bound : Binding}
    (hbound : h.ports.get? (Header.Udp.read p.window).destination = some bound)
    (hidle : bound.number ∉ h.running) :
    ∃ time block,
      (h.receiveUdp (runner depth) p source).trace = ⟨time, .portLeft bound.number⟩ ::
        (block ++ ⟨h.clock, .portEntered (Header.Udp.read p.window).destination bound.number
          bound.name bound.memory (Inbound.datagram source p.window)⟩ ::
            (h.delivering p.window source).trace) ∧
      CallEnds depth (bound.body bound.memory (Inbound.datagram source p.window)) bound.number
        block := by
  let caller : Caller := .port bound.number bound.name
  let d := Inbound.datagram source p.window
  let entered := (h.delivering p.window source).enteringPort
    (Header.Udp.read p.window).destination bound d
  have hcaller : caller.binding? = some bound.number := rfl
  obtain ⟨block, htrace, hends⟩ := runner_completes depth hcaller (bound.body bound.memory d)
    entered List.mem_cons_self
  obtain ⟨ports, heq, -⟩ := leavePort_eq (runner depth caller (bound.body bound.memory d) entered).1
    (Header.Udp.read p.window).destination bound.number
    (runner depth caller (bound.body bound.memory d) entered).2
  rw [show h.receiveUdp (runner depth) p source = _ from
    receiveUdp_of_idle depth h p source valid hbound hidle, heq]
  exact ⟨_, block, congrArg (List.cons _) htrace, hends⟩

/-! ### Every run -/

/-- **No handler of a port is called before it has returned.**

In every run, which is a sequence of moves at whose end no call is in progress:

* Every handler that was called has returned.

After any moves:

* The host goes by what its trace says: which calls are in progress, and what each port is bound
  to.
* What is bound to a port was bound when the port was opened last, with the handler it was opened
  with.
* Of every call of a handler it is so that no earlier call of the same binding was in progress;
  that the binding was that of the port, as it was opened last; and that what the host had just
  recorded is that it delivers the datagram, which was for this port.
* Once the binding of a port is replaced or taken away, be it in progress or not, it is never
  called again, for this or any other port.

For a host in any state, in a run or within the call of a handler, that is given a valid datagram
for a port with a handler:

* If the handler is being called, two lines are logged, and nothing else is done or changed.
* Otherwise it is called, and whatever it does, such as to close its port or to open it again, its
  script is followed to its end, and then it returns.  Only a script that is nested more deeply
  than scripts may be is stopped, at its first action.
* Afterwards the calls in progress are those from before. -/
theorem handlers_not_reentered (config : Config) (link : Link) :
    (∀ depth actions, Moves (silent config link) (execAll depth (start config link) actions) ∧
      inProgress (execAll depth (start config link) actions).trace = [] ∧
      ∀ later past time port binding name memory d,
        (execAll depth (start config link) actions).trace =
            later ++ ⟨time, .portEntered port binding name memory d⟩ :: past →
          ∃ r ∈ later, r.event = .portLeft binding) ∧
    (∀ h, Moves (silent config link) h →
      (h.running = inProgress h.trace ∧
        ∀ port, (h.ports.get? port).map Binding.number = boundTo port h.trace) ∧
      (∀ port bound, h.ports.get? port = some bound →
        ∃ h₁ later, Moves (silent config link) h₁ ∧ bound.number = h₁.bindings ∧
          Moves (h₁.opening port bound.name bound.body) h ∧
          h.trace = later ++ (h₁.opening port bound.name bound.body).trace ∧
          ∀ r ∈ later, ¬r.event.Rebinds port) ∧
      (∀ later past time port binding name memory d,
        h.trace = later ++ ⟨time, .portEntered port binding name memory d⟩ :: past →
          binding ∉ inProgress past ∧ boundTo port past = some binding ∧
            past.head? =
              some ⟨time, .notice (.delivering d.payload.length d.source d.port port)⟩) ∧
      ∀ later past r port binding, h.trace = later ++ r :: past →
        boundTo port past = some binding → r.event.Rebinds port →
          ∀ r' ∈ later, ∀ p name memory d, r'.event ≠ .portEntered p binding name memory d) ∧
    ∀ depth (h : Host) (p : Packet) source bound,
      Inbound.UdpValid h.config.ip source p.window →
      h.ports.get? (Header.Udp.read p.window).destination = some bound →
        (bound.number ∈ h.running →
          h.receiveUdp (runner depth) p source = (h.delivering p.window source).log
            (.handlerBusy (Header.Udp.read p.window).destination)) ∧
        (bound.number ∉ h.running →
          ∃ time block,
            (h.receiveUdp (runner depth) p source).trace = ⟨time, .portLeft bound.number⟩ ::
              (block ++ ⟨h.clock, .portEntered (Header.Udp.read p.window).destination
                bound.number bound.name bound.memory (Inbound.datagram source p.window)⟩ ::
                  (h.delivering p.window source).trace) ∧
            CallEnds depth (bound.body bound.memory (Inbound.datagram source p.window))
              bound.number block) ∧
        (h.receiveUdp (runner depth) p source).running = h.running := by
  refine ⟨fun depth actions => ?_, fun h moves => ?_,
    fun depth h p source bound valid hbound => ?_⟩
  · have served := run_served config link depth actions
    have hover : inProgress (execAll depth (start config link) actions).trace = [] := by
      rw [← served.moves.recallsPorts.running, served.running]
      rfl
    refine ⟨served.moves, hover, fun later past time port binding name memory d hsplit => ?_⟩
    apply Classical.byContradiction
    intro hnot
    have hmem : binding ∈ inProgress (later ++
        ⟨time, .portEntered port binding name memory d⟩ :: past) :=
      mem_inProgress_append List.mem_cons_self fun r hr hleft => hnot ⟨r, hr, hleft⟩
    rw [← hsplit, hover] at hmem
    exact absurd hmem List.not_mem_nil
  · have recalls := moves.recallsPorts
    refine ⟨⟨recalls.running, recalls.ports⟩, fun port bound hbound => moves.opened hbound,
      ?_, ?_⟩
    · intro later past time port binding name memory d hsplit
      exact moves.accords hsplit
    · intro later past r port binding hsplit hbound hrebinds
      exact moves.not_entered_again hsplit hbound hrebinds
  · exact ⟨receiveUdp_of_busy depth h p source valid hbound,
      receiveUdp_completes depth h p source valid hbound,
      (receiveUdp_served (runner_served depth) h p source).running⟩

/-- A handler that closes its own port and then gives the host the datagram once more: its
script is followed to the end, and it is not called again. -/
theorem handlers_not_reentered_of_closing_itself :
    ∃ (config : Config) (p : Packet) (body : PortHandler) (block later past : List Record),
      body = (fun _ _ => .step (.closePort 7) fun _ =>
        .step (.receiveUdp p ⟨10, 0, 0, 2⟩) fun _ => .done 0) ∧
      (body 0 (Inbound.datagram ⟨10, 0, 0, 2⟩ p.window)).Completes (repliesTo 0 block) ∧
      (execAll 2 (start config {})
        [.openPort 7 "once" body, .receiveUdp p ⟨10, 0, 0, 2⟩]).trace =
          later ++ ⟨0, .portClosed 7⟩ :: past ∧
      inProgress past = [0] ∧
      ∀ r ∈ later, ∀ port name memory d, r.event ≠ .portEntered port 0 name memory d := by
  obtain ⟨config, hconfig⟩ : ∃ config, Settings.build {} = .ok config := ⟨_, rfl⟩
  obtain ⟨p, hp⟩ : ∃ p, p = Packet.ofPayload 0 [0, 9, 0, 7, 0, 11, 0, 0, 1, 2, 3] := ⟨_, rfl⟩
  obtain ⟨body, hbody⟩ : ∃ body : PortHandler, body = fun _ _ => .step (.closePort 7) fun _ =>
    .step (.receiveUdp p ⟨10, 0, 0, 2⟩) fun _ => .done 0 := ⟨_, rfl⟩
  obtain ⟨hruns, hreached, hgiven⟩ := handlers_not_reentered config {}
  obtain ⟨opened, hopened⟩ : ∃ opened, opened =
    execAll 2 (start config {}) [.openPort 7 "once" body] := ⟨_, rfl⟩
  obtain ⟨run, hrun⟩ : ∃ run, run = execAll 2 (start config {})
    [.openPort 7 "once" body, .receiveUdp p ⟨10, 0, 0, 2⟩] := ⟨_, rfl⟩
  -- The call comes to its end.
  have hwindow : p.window = [0, 9, 0, 7, 0, 11, 0, 0, 1, 2, 3] := by
    rw [hp]
    exact Packet.window_ofPayload 0 _
  have valid : Inbound.UdpValid opened.config.ip ⟨10, 0, 0, 2⟩ p.window := by
    rw [hwindow]
    exact ⟨by decide, by decide, by decide, .inl (by decide)⟩
  have hbound : opened.ports.get? (Header.Udp.read p.window).destination =
      some { number := 0, name := "once", memory := 0, body } := by
    rw [hwindow, hopened]
    cases hconfig
    rfl
  have hidle : 0 ∉ opened.running := by
    rw [hopened]
    cases hconfig
    exact List.not_mem_nil
  obtain ⟨-, hends, -⟩ := hgiven 2 opened p ⟨10, 0, 0, 2⟩ _ valid hbound
  obtain ⟨time, block, -, hcall⟩ := hends hidle
  have hcompletes := hcall.resolve_right fun hdeep => absurd hdeep.1 (by decide)
  -- The port was closed while its handler was being called.
  have hclosed : run.trace.drop 5 = ⟨0, .portClosed 7⟩ :: run.trace.drop 6 := by
    rw [hrun, hbody, hp]
    cases hconfig
    decide +kernel
  have hport : boundTo 7 (run.trace.drop 6) = some 0 := by
    rw [hrun, hbody, hp]
    cases hconfig
    decide +kernel
  have hcalling : inProgress (run.trace.drop 6) = [0] := by
    rw [hrun, hbody, hp]
    cases hconfig
    decide +kernel
  have hsplit := (List.take_append_drop 5 run.trace).symm
  rw [hclosed] at hsplit
  have moves : Moves (silent config {}) run := by
    rw [hrun]
    exact (hruns 2 _).1
  exact ⟨config, p, body, block, _, _, hbody, hcompletes, by rw [← hrun]; exact hsplit, hcalling,
    (hreached run moves).2.2.2 _ _ _ 7 0 hsplit hport rfl⟩

end Host

end HostNet
