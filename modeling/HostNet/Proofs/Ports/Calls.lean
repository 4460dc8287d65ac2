import HostNet.Proofs.Moves

/-!
# Calls of the handlers of ports

Which calls of handlers are in progress, and which binding a port has, can be read from a trace
alone.  A host goes by its list of bindings that run and by its table of ports, and these hold
what its trace says, however calls nest and whatever the handlers do to the table meanwhile.

* `History.inProgress`, `History.boundTo` — the calls in progress and the binding of a port, by
  the records before some time.
* `Host.RecallsPorts` — the table and the list hold what the trace says (`Moves.recallsPorts`).
* `History.Accords` — what the records before it say of a record that concerns ports, which is
  so of every record of a run (`Moves.accords`).
* `Moves.opened` — what is bound to a port was bound when it was opened last.
* `Moves.not_entered_again` — once a binding was replaced or taken away it is never called.

### Why bindings are told apart by numbers

A port may be opened again while the handler bound to it before is still running.  The two
bindings may have the same name and even the same handler, but never the same number, since the
numbers only go up.
-/

namespace HostNet

namespace Event

/-- The calls in progress after an event, the one entered last first. -/
def calling (running : List Nat) : Event → List Nat
  | portEntered _ binding _ _ _ => binding :: running
  | portLeft binding => running.erase binding
  | _ => running

/-- The binding of a port after an event. -/
def bindingOf (port : UInt16) (bound : Option Nat) : Event → Option Nat
  | portOpened p binding => if p = port then some binding else bound
  | portClosed p => if p = port then none else bound
  | _ => bound

/-- Whether the event decides anew what is bound to a port. -/
def Rebinds (port : UInt16) : Event → Prop
  | portOpened p _ => p = port
  | portClosed p => p = port
  | _ => False

theorem IsPlain.calling_eq {e : Event} (he : e.IsPlain) (running : List Nat) :
    e.calling running = running := by
  cases e with
  | portEntered port binding name memory datagram => exact he.elim
  | portLeft binding => exact he.elim
  | _ => rfl

theorem mem_calling {e : Event} {running : List Nat} {binding : Nat} (hmem : binding ∈ running)
    (he : e ≠ .portLeft binding) : binding ∈ e.calling running := by
  cases e with
  | portEntered port other name memory datagram => exact List.mem_cons_of_mem other hmem
  | portLeft other =>
      have hne : binding ≠ other := fun heq => he (by rw [heq])
      exact (List.mem_erase_of_ne hne).2 hmem
  | _ => exact hmem

theorem IsPlain.not_rebinds {e : Event} (he : e.IsPlain) (port : UInt16) : ¬e.Rebinds port := by
  cases e with
  | portOpened p binding => exact he.elim
  | portClosed p => exact he.elim
  | _ => exact id

theorem bindingOf_of_not_rebinds {e : Event} {port : UInt16} (he : ¬e.Rebinds port)
    (bound : Option Nat) : e.bindingOf port bound = bound := by
  cases e with
  | portOpened p binding => exact if_neg he
  | portClosed p => exact if_neg he
  | _ => rfl

end Event

namespace History

/-! ### What the records before some time say -/

/-- The calls of handlers of ports that are in progress, the one entered last first. -/
def inProgress (past : List Record) : List Nat :=
  past.foldr (fun r running => r.event.calling running) []

/-- The binding that a port was given when it was opened last, unless it was closed since. -/
def boundTo (port : UInt16) (past : List Record) : Option Nat :=
  past.foldr (fun r bound => r.event.bindingOf port bound) none

section

variable {new past : List Record} {port : UInt16} {binding : Nat}

@[simp] theorem inProgress_cons (r : Record) (past : List Record) :
    inProgress (r :: past) = r.event.calling (inProgress past) := rfl

@[simp] theorem boundTo_cons (port : UInt16) (r : Record) (past : List Record) :
    boundTo port (r :: past) = r.event.bindingOf port (boundTo port past) := rfl

theorem inProgress_append_of_plain (hnew : ∀ r ∈ new, r.event.IsPlain) :
    inProgress (new ++ past) = inProgress past := by
  induction new with
  | nil => rfl
  | cons r rest ih =>
      rw [List.cons_append, inProgress_cons, (hnew r List.mem_cons_self).calling_eq]
      exact ih fun r hr => hnew r (List.mem_cons_of_mem _ hr)

theorem boundTo_append_of_not_rebinds (hnew : ∀ r ∈ new, ¬r.event.Rebinds port) :
    boundTo port (new ++ past) = boundTo port past := by
  induction new with
  | nil => rfl
  | cons r rest ih =>
      rw [List.cons_append, boundTo_cons,
        Event.bindingOf_of_not_rebinds (hnew r List.mem_cons_self)]
      exact ih fun r hr => hnew r (List.mem_cons_of_mem _ hr)

/-- A call is in progress until its handler returns. -/
theorem mem_inProgress_append (hmem : binding ∈ inProgress past)
    (hnew : ∀ r ∈ new, r.event ≠ .portLeft binding) : binding ∈ inProgress (new ++ past) := by
  induction new with
  | nil => exact hmem
  | cons r rest ih =>
      have hrest := ih fun r hr => hnew r (List.mem_cons_of_mem _ hr)
      rw [List.cons_append, inProgress_cons]
      exact Event.mem_calling hrest (hnew r List.mem_cons_self)

/-- A port is bound to what it was opened with last. -/
theorem exists_opened_of_boundTo (hbound : boundTo port past = some binding) :
    ∃ mid time before, past = mid ++ ⟨time, .portOpened port binding⟩ :: before ∧
      ∀ r ∈ mid, ¬r.event.Rebinds port := by
  induction past with
  | nil => cases hbound
  | cons r past ih =>
      by_cases hrebinds : r.event.Rebinds port
      · rw [boundTo_cons] at hbound
        obtain ⟨time, event⟩ := r
        cases event with
        | portOpened p number =>
            cases (hrebinds : p = port)
            rw [Event.bindingOf, if_pos rfl, Option.some.injEq] at hbound
            cases hbound
            exact ⟨[], time, past, rfl, fun r hr => absurd hr List.not_mem_nil⟩
        | portClosed p =>
            rw [Event.bindingOf, if_pos (show p = port from hrebinds)] at hbound
            cases hbound
        | _ => exact hrebinds.elim
      · rw [boundTo_cons, Event.bindingOf_of_not_rebinds hrebinds] at hbound
        obtain ⟨mid, time, before, rfl, hmid⟩ := ih hbound
        refine ⟨r :: mid, time, before, rfl, fun r' hr' => ?_⟩
        rcases List.mem_cons.1 hr' with rfl | hr'
        · exact hrebinds
        · exact hmid r' hr'

end

/-! ### Records that accord with those before -/

/-- Whether an event that concerns ports accords with the records before it. -/
def Accords (past : List Record) (time : Nat) : Event → Prop
  | .portOpened _ binding =>
      ∀ r ∈ past, ∀ port earlier, r.event = .portOpened port earlier → earlier < binding
  | .portEntered port binding _ _ d =>
      binding ∉ inProgress past ∧ boundTo port past = some binding ∧
        past.head? =
          some ⟨time, .notice (.delivering d.payload.length d.source d.port port)⟩
  | .portLeft binding => (inProgress past).head? = some binding
  | .replied caller _ =>
      ∀ binding, caller.binding? = some binding → (inProgress past).head? = some binding
  | _ => True

theorem accords_of_plain {e : Event} (he : e.IsPlain) (past : List Record) (time : Nat) :
    Accords past time e := by
  cases e with
  | portOpened port binding => exact he.elim
  | portEntered port binding name memory datagram => exact he.elim
  | portLeft binding => exact he.elim
  | replied caller reply => exact he.elim
  | _ => trivial

end History

open History

namespace Host

/-! ### What the host goes by -/

/-- The table of ports and the list of bindings that run hold what the trace says. -/
structure RecallsPorts (h : Host) : Prop where
  running : h.running = inProgress h.trace
  ports : ∀ port, (h.ports.get? port).map Binding.number = boundTo port h.trace
  /-- The next binding will have a number of its own. -/
  fresh : ∀ r ∈ h.trace, ∀ port binding, r.event = .portOpened port binding →
    binding < h.bindings

namespace RecallsPorts

variable {h h' : Host}

theorem silent (config : Config) (link : Link) : (silent config link).RecallsPorts where
  running := rfl
  ports _ := rfl
  fresh _ hr := absurd hr List.not_mem_nil

theorem plain (recalls : h.RecallsPorts) (done : Plain h h') : h'.RecallsPorts := by
  obtain ⟨new, htrace, hplain⟩ := done.kinds
  refine ⟨?_, fun port => ?_, fun r hr port binding hopened => ?_⟩
  · rw [done.running, htrace, inProgress_append_of_plain hplain]
    exact recalls.running
  · rw [done.ports, htrace,
      boundTo_append_of_not_rebinds fun r hr => (hplain r hr).not_rebinds port]
    exact recalls.ports port
  · rw [done.bindings]
    rw [htrace] at hr
    rcases List.mem_append.1 hr with hr | hr
    · have himpossible := hplain r hr
      rw [hopened] at himpossible
      exact himpossible.elim
    · exact recalls.fresh r hr port binding hopened

/-- What is recorded next, if no port is opened by it. -/
theorem fresh_cons (recalls : h.RecallsPorts) {time : Nat} {e : Event}
    (he : ∀ port binding, e ≠ .portOpened port binding) :
    ∀ r ∈ (⟨time, e⟩ : Record) :: h.trace, ∀ port binding,
      r.event = .portOpened port binding → binding < h.bindings := by
  intro r hr port binding hopened
  rcases List.mem_cons.1 hr with rfl | hr
  · exact absurd hopened (he port binding)
  · exact recalls.fresh r hr port binding hopened

theorem opening (recalls : h.RecallsPorts) (port : UInt16) (name : String)
    (body : PortHandler) : (h.opening port name body).RecallsPorts where
  running := recalls.running
  ports p := by
    show ((h.ports.insert port _).get? p).map Binding.number =
      if port = p then some h.bindings else boundTo p h.trace
    rw [Table.get?_insert]
    by_cases hp : p = port
    · rw [if_pos hp, if_pos hp.symm]
      rfl
    · rw [if_neg hp, if_neg (Ne.symm hp)]
      exact recalls.ports p
  fresh r hr p binding hopened := by
    show binding < h.bindings + 1
    rcases List.mem_cons.1 hr with rfl | hr
    · cases hopened
      exact Nat.lt_succ_self _
    · exact Nat.lt_succ_of_lt (recalls.fresh r hr p binding hopened)

theorem closing (recalls : h.RecallsPorts) (port : UInt16) : (h.closing port).RecallsPorts where
  running := recalls.running
  ports p := by
    show ((h.ports.erase port).get? p).map Binding.number =
      if port = p then none else boundTo p h.trace
    rw [Table.get?_erase]
    by_cases hp : p = port
    · rw [if_pos hp, if_pos hp.symm]
      rfl
    · rw [if_neg hp, if_neg (Ne.symm hp)]
      exact recalls.ports p
  fresh := recalls.fresh_cons nofun

theorem enteringPort (recalls : h.RecallsPorts) (port : UInt16) (bound : Binding)
    (d : Datagram) : (h.enteringPort port bound d).RecallsPorts where
  running := congrArg (bound.number :: ·) recalls.running
  ports := recalls.ports
  fresh := recalls.fresh_cons nofun

theorem leavePort (recalls : h.RecallsPorts) (port : UInt16) (binding : Nat)
    (outcome : Outcome) : (h.leavePort port binding outcome).RecallsPorts := by
  obtain ⟨ports, heq, hports⟩ := leavePort_eq h port binding outcome
  rw [heq]
  refine ⟨congrArg (·.erase binding) recalls.running, fun p => ?_, recalls.fresh_cons nofun⟩
  refine Eq.trans ?_ (recalls.ports p)
  show (ports.get? p).map Binding.number = (h.ports.get? p).map Binding.number
  rcases hports p with hsame | ⟨bound, memory, hbound, hnew⟩
  · rw [hsame]
  · rw [hbound, hnew]
    rfl

theorem emit_replied (recalls : h.RecallsPorts) (caller : Caller) (reply : Reply) :
    (h.emit (.replied caller reply)).RecallsPorts where
  running := recalls.running
  ports := recalls.ports
  fresh := recalls.fresh_cons nofun

/-- What a host admits accords with its trace. -/
theorem accords (recalls : h.RecallsPorts) {e : Event} (hadmits : h.Admits e) :
    Accords h.trace h.clock e := by
  cases e with
  | portOpened port binding =>
      cases (hadmits : binding = h.bindings)
      exact fun r hr port earlier hopened => recalls.fresh r hr port earlier hopened
  | portEntered port binding name memory datagram =>
      obtain ⟨⟨bound, hbound, hnumber⟩, hidle, hdelivers⟩ := hadmits
      refine ⟨?_, ?_, hdelivers⟩
      · rw [← recalls.running]
        exact hidle
      · rw [← recalls.ports, hbound, ← hnumber]
        rfl
  | portLeft binding =>
      show (inProgress h.trace).head? = some binding
      rw [← recalls.running]
      exact hadmits
  | replied caller reply =>
      intro binding hbinding
      rw [← recalls.running]
      exact hadmits.1 binding hbinding
  | _ => trivial

end RecallsPorts

/-- **One move** leaves the host with what the trace says; the cases are the kinds of moves. -/
theorem Move.recallsPorts {h h' : Host} (move : Move h h') (recalls : h.RecallsPorts) :
    h'.RecallsPorts := by
  cases move with
  | plain done => exact recalls.plain done
  | openPort port name body => exact recalls.opening port name body
  | closePort port => exact recalls.closing port
  | enterPort port bound datagram _ _ _ => exact recalls.enteringPort port bound datagram
  | leavePort port binding outcome _ => exact recalls.leavePort port binding outcome
  | reply caller reply _ _ => exact recalls.emit_replied caller reply

section

variable {config : Config} {link : Link} {h : Host} (moves : Moves (silent config link) h)
include moves

/-- **In every run** the host goes by what the trace says, by induction along the moves. -/
theorem Moves.recallsPorts : h.RecallsPorts := by
  induction moves with
  | refl => exact .silent config link
  | tail _ move ih => exact move.recallsPorts ih

/-- **Every record of a run** accords with those before it. -/
theorem Moves.accords {later past : List Record} {r : Record}
    (hsplit : h.trace = later ++ r :: past) : Accords past r.time r.event := by
  rcases Moves.admits moves hsplit with hplain | ⟨h₁, reached, rfl, htime, hadmits⟩
  · exact accords_of_plain hplain past r.time
  · rw [htime]
    exact reached.recallsPorts.accords hadmits

/-! ### What becomes of bindings -/

/-- **A binding has a number of its own**: no other opening of a port gave it. -/
theorem Moves.opened_once {later later' past past' : List Record} {time time' : Nat}
    {port port' : UInt16} {binding : Nat}
    (hsplit : h.trace = later ++ ⟨time, .portOpened port binding⟩ :: past)
    (hsplit' : h.trace = later' ++ ⟨time', .portOpened port' binding⟩ :: past') :
    later = later' ∧ port = port' := by
  have hself {past : List Record} {port port' : UInt16} {time time' : Nat}
      (haccords : Accords past time (.portOpened port binding))
      (hmem : ⟨time', .portOpened port' binding⟩ ∈ past) : False :=
    Nat.lt_irrefl binding (haccords _ hmem port' binding rfl)
  rcases List.append_eq_append_iff.1 (hsplit.symm.trans hsplit') with
    ⟨between, hlater, hrest⟩ | ⟨between, hlater, hrest⟩
  · cases between with
    | nil =>
        cases hrest
        exact ⟨(hlater.trans (List.append_nil _)).symm, rfl⟩
    | cons first rest =>
        rw [List.cons_append, List.cons.injEq] at hrest
        have hearlier : ⟨time', .portOpened port' binding⟩ ∈ past := by
          rw [hrest.2]
          exact List.mem_append_right _ List.mem_cons_self
        exact (hself (Moves.accords moves hsplit) hearlier).elim
  · cases between with
    | nil =>
        cases hrest
        exact ⟨hlater.trans (List.append_nil _), rfl⟩
    | cons first rest =>
        rw [List.cons_append, List.cons.injEq] at hrest
        have hearlier : ⟨time, .portOpened port binding⟩ ∈ past' := by
          rw [hrest.2]
          exact List.mem_append_right _ List.mem_cons_self
        exact (hself (Moves.accords moves hsplit') hearlier).elim

/-- **A binding that was replaced or taken away is never called again**, even if that happened
while it was being called. -/
theorem Moves.not_entered_again {later past : List Record} {r : Record} {port : UInt16}
    {binding : Nat} (hsplit : h.trace = later ++ r :: past)
    (hbound : boundTo port past = some binding) (hrebinds : r.event.Rebinds port) :
    ∀ r' ∈ later, ∀ p name memory d, r'.event ≠ .portEntered p binding name memory d := by
  intro r' hr' p name memory d hentered
  obtain ⟨after, between, rfl⟩ := List.append_of_mem hr'
  have hcall : h.trace = after ++ r' :: (between ++ r :: past) := by
    rw [hsplit, List.append_assoc, List.cons_append]
  have haccords := Moves.accords moves hcall
  rw [hentered] at haccords
  obtain ⟨mid, time, before, hpast, -⟩ := exists_opened_of_boundTo hbound
  obtain ⟨mid', time', before', hpast', hmid'⟩ := exists_opened_of_boundTo haccords.2.1
  -- The port called was opened with this binding, and only one port ever was.
  have hopened : h.trace =
      (after ++ r' :: (between ++ r :: mid)) ++ ⟨time, .portOpened port binding⟩ :: before := by
    rw [hcall, hpast]
    simp only [List.append_assoc, List.cons_append]
  have hopened' : h.trace =
      (after ++ r' :: mid') ++ ⟨time', .portOpened p binding⟩ :: before' := by
    rw [hcall, hpast']
    simp only [List.append_assoc, List.cons_append]
  obtain ⟨hsame, rfl⟩ := Moves.opened_once moves hopened hopened'
  have hmid : between ++ r :: mid = mid' :=
    (List.cons.inj (List.append_cancel_left hsame)).2
  refine hmid' r ?_ hrebinds
  rw [← hmid]
  exact List.mem_append_right _ List.mem_cons_self

end

/-- What is bound to a port after a move was bound before it, with the same handler, or the move
is that the port was opened with it. -/
theorem Move.bound {h h' : Host} (move : Move h h') {port : UInt16} {bound : Binding}
    (hbound : h'.ports.get? port = some bound) :
    (bound.number = h.bindings ∧ h' = h.opening port bound.name bound.body) ∨
      ∃ memory new, h.ports.get? port = some { bound with memory } ∧
        h'.trace = new ++ h.trace ∧ ∀ r ∈ new, ¬r.event.Rebinds port := by
  have hone {e : Event} (htrace : h'.trace = ⟨h.clock, e⟩ :: h.trace)
      (hports : h.ports.get? port = some bound) (he : ¬e.Rebinds port) :
      ∃ memory new, h.ports.get? port = some { bound with memory } ∧
        h'.trace = new ++ h.trace ∧ ∀ r ∈ new, ¬r.event.Rebinds port :=
    ⟨bound.memory, [⟨h.clock, e⟩], hports, htrace, fun r hr => by
      rw [List.mem_singleton.1 hr]
      exact he⟩
  cases move with
  | plain done =>
      obtain ⟨new, htrace, hplain⟩ := done.kinds
      rw [done.ports] at hbound
      exact .inr ⟨bound.memory, new, hbound, htrace, fun r hr => (hplain r hr).not_rebinds port⟩
  | openPort p name body =>
      replace hbound := (Table.get?_insert _ _ _ _).symm.trans hbound
      by_cases hp : port = p
      · rw [if_pos hp, Option.some.injEq] at hbound
        subst hp
        subst hbound
        exact .inl ⟨rfl, rfl⟩
      · rw [if_neg hp] at hbound
        exact .inr (hone rfl hbound (Ne.symm hp))
  | closePort p =>
      replace hbound := (Table.get?_erase _ _ _).symm.trans hbound
      by_cases hp : port = p
      · rw [if_pos hp] at hbound
        cases hbound
      · rw [if_neg hp] at hbound
        exact .inr (hone rfl hbound (Ne.symm hp))
  | enterPort p called datagram _ _ _ => exact .inr (hone rfl hbound id)
  | leavePort p binding outcome _ =>
      obtain ⟨ports, heq, hports⟩ := leavePort_eq h p binding outcome
      rw [heq] at hbound
      refine .inr ?_
      rcases hports port with hsame | ⟨before, memory, hbefore, hnew⟩
      · exact hone (e := .portLeft binding) (by rw [heq]; rfl) (hsame.symm.trans hbound) id
      · cases hnew.symm.trans hbound
        refine ⟨before.memory, [⟨h.clock, .portLeft binding⟩], hbefore, by rw [heq]; rfl,
          fun r hr => ?_⟩
        rw [List.mem_singleton.1 hr]
        exact id
  | reply caller reply _ _ => exact .inr (hone rfl hbound id)

/-- **What is bound to a port** was bound when the port was opened last, with the handler it was
opened with; by induction along the moves. -/
theorem Moves.opened {config : Config} {link : Link} {h : Host}
    (moves : Moves (silent config link) h) {port : UInt16} {bound : Binding}
    (hbound : h.ports.get? port = some bound) :
    ∃ h₁ later, Moves (silent config link) h₁ ∧ bound.number = h₁.bindings ∧
      Moves (h₁.opening port bound.name bound.body) h ∧
      h.trace = later ++ (h₁.opening port bound.name bound.body).trace ∧
      ∀ r ∈ later, ¬r.event.Rebinds port := by
  induction moves generalizing bound with
  | refl => cases hbound
  | @tail h₂ h' before move ih =>
      rcases move.bound hbound with ⟨hnumber, rfl⟩ | ⟨memory, new, hbefore, htrace, hnew⟩
      · exact ⟨h₂, [], before, hnumber, Moves.refl _, rfl,
          fun r hr => absurd hr List.not_mem_nil⟩
      · obtain ⟨h₁, later, reached, hnumber, after, hlater, hkept⟩ := ih hbefore
        refine ⟨h₁, new ++ later, reached, hnumber, after.move move, ?_, fun r hr => ?_⟩
        · rw [htrace, hlater, List.append_assoc]
        · rcases List.mem_append.1 hr with hr | hr
          · exact hnew r hr
          · exact hkept r hr

end Host

end HostNet
