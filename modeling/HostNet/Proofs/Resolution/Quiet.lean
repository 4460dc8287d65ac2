import HostNet.Proofs.Observation

/-!
# Handlers that keep quiet

A handler of a port may do anything a host can be asked for.  This file is about those
that send nothing and do not meddle with what the host knows of its neighbours.

* `Host.Undisturbed h h'` — since `h`, nothing that sending and receiving depend on has
  changed.
* `Host.KeepsQuiet` — the scripts of a handler leave any host undisturbed.
* `Script.LooksUp` — a script that only looks things up, or opens and closes ports.
* `keepsQuiet_of_looksUp` — handlers with such scripts keep quiet.

`KeepsQuiet` is about what scripts do and not about how they are written, so that a
handler which polls a link with nothing to receive, or which runs scripts within scripts,
may keep quiet as well.
-/

namespace HostNet

namespace Host

/-- Since `h` nothing has changed that sending and receiving depend on, and no handler was
called. -/
structure Undisturbed (h h' : Host) : Prop where
  config : h'.config = h.config
  clock : h'.clock = h.clock
  link : h'.link = h.link
  cache : h'.cache = h.cache
  held : h'.held = h.held
  frameHandlers : h'.frameHandlers = h.frameHandlers
  protocolHandlers : h'.protocolHandlers = h.protocolHandlers
  nextId : h'.nextId = h.nextId
  calls : h'.calls = h.calls

namespace Undisturbed

variable {h h₁ h₂ : Host}

theorem refl (h : Host) : Undisturbed h h := ⟨rfl, rfl, rfl, rfl, rfl, rfl, rfl, rfl, rfl⟩

theorem trans (first : Undisturbed h h₁) (second : Undisturbed h₁ h₂) : Undisturbed h h₂ where
  config := second.config.trans first.config
  clock := second.clock.trans first.clock
  link := second.link.trans first.link
  cache := second.cache.trans first.cache
  held := second.held.trans first.held
  frameHandlers := second.frameHandlers.trans first.frameHandlers
  protocolHandlers := second.protocolHandlers.trans first.protocolHandlers
  nextId := second.nextId.trans first.nextId
  calls := second.calls.trans first.calls

theorem emit (first : Undisturbed h h₁) {e : Event} (hcall : e.call? = none) :
    Undisturbed h (h₁.emit e) :=
  first.trans ⟨rfl, rfl, rfl, rfl, rfl, rfl, rfl, rfl, observed_emit_of_eq_none h₁ hcall⟩

end Undisturbed

/-- A handler whose scripts send nothing and leave the host alone, whatever they are
called with and however deep scripts may nest, while no frame is waiting to be received. -/
def KeepsQuiet (body : PortHandler) : Prop :=
  ∀ depth caller memory datagram (h : Host), h.link.queue = [] →
    Undisturbed h (runner depth caller (body memory datagram) h).1

end Host

/-! ### Scripts that look things up -/

/-- An action that looks something up, or changes no more than which ports are open. -/
def Action.LooksUp : Action → Prop
  | .listEntries => True
  | .listPending => True
  | .showConfig => True
  | .countSent => True
  | .refuse _ => True
  | .openPort _ _ _ => True
  | .closePort _ => True
  | _ => False

/-- A script all of whose actions look something up, whatever is replied. -/
inductive Script.LooksUp : Script → Prop where
  | done (memory : Nat) : LooksUp (.done memory)
  | fail (cause : Packet.Error) : LooksUp (.fail cause)
  | step {action : Action} {next : Reply → Script} (now : action.LooksUp)
      (later : ∀ reply, (next reply).LooksUp) : LooksUp (.step action next)

namespace Host

theorem perform_undisturbed (run : Runner) (h : Host) {action : Action}
    (hlooks : action.LooksUp) : Undisturbed h (h.perform run action).1 := by
  cases action with
  | openPort port name body =>
      exact ⟨rfl, rfl, rfl, rfl, rfl, rfl, rfl, rfl, observed_emit_of_eq_none _ rfl⟩
  | closePort port =>
      exact ⟨rfl, rfl, rfl, rfl, rfl, rfl, rfl, rfl, observed_emit_of_eq_none _ rfl⟩
  | listEntries => exact Undisturbed.refl h
  | listPending => exact Undisturbed.refl h
  | showConfig => exact Undisturbed.refl h
  | countSent => exact Undisturbed.refl h
  | refuse cause => exact Undisturbed.refl h
  | _ => exact hlooks.elim

/-- A script that only looks things up, by induction on it. -/
theorem script_run_undisturbed {exec : Action → Host → Host × Option Reply}
    (hexec : ∀ (action : Action) h, action.LooksUp → Undisturbed h (exec action h).1)
    (caller : Caller) {script : Script} (hlooks : script.LooksUp) (h : Host) :
    Undisturbed h (script.run exec caller h).1 := by
  induction hlooks generalizing h with
  | done memory => exact Undisturbed.refl h
  | fail cause => exact (Undisturbed.refl h).emit rfl
  | @step action next now later ih =>
      have hdone := hexec action h now
      rw [Script.run]
      cases hreply : exec action h with
      | mk h₁ reply? =>
          rw [hreply] at hdone
          cases reply? with
          | none => exact hdone
          | some reply => exact (hdone.emit rfl).trans (ih reply _)

/-- **Handlers whose scripts only look things up keep quiet**, at any depth of nesting. -/
theorem keepsQuiet_of_looksUp {body : PortHandler}
    (hbody : ∀ memory datagram, (body memory datagram).LooksUp) : KeepsQuiet body := by
  intro depth caller memory datagram h _
  cases depth with
  | zero =>
      refine script_run_undisturbed (fun action h _ => ?_) caller (hbody memory datagram) h
      exact (Undisturbed.refl h).emit rfl
  | succ depth =>
      refine script_run_undisturbed (fun action h hlooks => ?_) caller (hbody memory datagram) h
      exact perform_undisturbed (runner depth) h hlooks

end Host

end HostNet
