/-
# What a caller and the log get to know

*Of a failure*, a caller learns that it happened.  Two sets of primitives may differ in how a request
fails, by a panic or by a fault, and in the words of the fault; as long as they bring the same
values and fail at the same requests (`Concord`), all operations answer alike and make the same
calls, one after the other (`Operation.map_visible_runAll`).

*Of the arguments*, errors and logs show the sizes alone.  Two operations of one kind with arguments
of the same sizes (`Operation.blank`) ask for the same things in the same order, whatever they are
answered (`Program.Follows`, `Operation.agenda`).  So where the replies have the same outcomes
(`Reply.Outcome`), the error is the same, and so is the log but for the words of a fault
(`Operation.alike`), whatever the bytes of the arguments and the values of the replies.

The words of a fault are its detail and the operation under which the primitives report it, and the
log shows both.  Hence the whole log is the same where the replies are of the same kinds
(`Reply.Kind`, `Operation.log_congr`), and need not be where faults agree in their details alone
(`Operation.reported_operation_is_logged`).
-/

import StarkWire.Proofs.Bridge.Agenda
import StarkWire.Proofs.Bridge.Fault
import StarkWire.Proofs.Bridge.Log

namespace StarkWire

variable {σ σ' α β : Type}

namespace Reply

/-- The value of a reply, if it has one. -/
def value? : Reply α → Option α
  | value a => some a
  | fault _ => none
  | panic => none

/-- How a reply comes out, whatever its value, and whatever operation a fault is reported under. -/
inductive Outcome where
  | value
  | fault (detail : String)
  | panic
deriving DecidableEq

/-- The outcome of a reply. -/
def outcome : Reply α → Outcome
  | value _ => .value
  | fault f => .fault f.detail
  | panic => .panic

/-- What a reply is, whatever its value. -/
inductive Kind where
  | value
  | fault (operation detail : String)
  | panic
deriving DecidableEq

/-- The kind of a reply. -/
def kind : Reply α → Kind
  | value _ => .value
  | fault f => .fault f.operation f.detail
  | panic => .panic

/-- The outcome of a reply of this kind. -/
def Kind.outcome : Kind → Outcome
  | value => .value
  | fault _ detail => .fault detail
  | panic => .panic

/-- How a call with a reply of this kind is logged. -/
def Kind.event (operation : String) : Kind → Bridge.Event
  | value => .completed operation
  | fault reported detail => .faulted operation (reported ++ ": " ++ detail)
  | panic => .panicked operation

/-- How a call with this outcome is logged, without the words of a fault. -/
def Outcome.event (operation : String) : Outcome → Bridge.Event
  | value => .completed operation
  | fault _ => .faulted operation ""
  | panic => .panicked operation

end Reply

/-- An event without the words of a fault. -/
def Bridge.Event.muted : Bridge.Event → Bridge.Event
  | .faulted operation _ => .faulted operation ""
  | e => e

namespace Exchange

/-- The kind of the reply. -/
def kind (x : Exchange) : Reply.Kind := x.reply.kind

/-- The outcome of the call. -/
def outcome (x : Exchange) : Reply.Outcome := x.reply.outcome

/-- The outcome forgets the operation under which a fault is reported. -/
theorem outcome_eq (x : Exchange) : x.outcome = x.kind.outcome := by
  rcases x with ⟨q, a | f | _⟩ <;> rfl

/-- Replies of the same kinds have the same outcomes. -/
theorem map_outcome_congr {xs ys : List Exchange} (h : xs.map kind = ys.map kind) :
    xs.map outcome = ys.map outcome := by
  have houtcome := congrArg (List.map Reply.Kind.outcome) h
  rw [List.map_map, List.map_map] at houtcome
  rwa [funext outcome_eq]

/-- The entry of a call is made of its operation and the kind of the reply. -/
theorem event_eq (x : Exchange) : x.event = x.kind.event x.request.operation := by
  rcases x with ⟨q, a | f | _⟩ <;> rfl

/-- Without the words of a fault it is made of the operation and the outcome. -/
theorem muted_event (x : Exchange) : x.event.muted = x.outcome.event x.request.operation := by
  rcases x with ⟨q, a | f | _⟩ <;> rfl

/-- A call has succeeded when its outcome is a value. -/
theorem succeeded_iff {x : Exchange} : x.succeeded = true ↔ x.outcome = .value := by
  rcases x with ⟨q, a | f | _⟩ <;> simp [succeeded, outcome, Reply.outcome]

/-- A call that brings a value is logged as completed. -/
theorem event_of_succeeded {x : Exchange} (h : x.succeeded = true) : x.event = x.completion := by
  rcases x with ⟨q, a | f | _⟩
  · rfl
  · cases h
  · cases h

/-- What is made of a call from its operation and from something about its reply is made so of all
calls. -/
theorem map_eq_zipWith {β γ : Type} {f : Exchange → β} {g : Exchange → γ} {h : String → γ → β}
    (hf : ∀ x, f x = h x.request.operation (g x)) (xs : List Exchange) :
    xs.map f = List.zipWith h (xs.map fun x => x.request.operation) (xs.map g) := by
  rw [List.zipWith_map, List.zipWith_self]
  exact List.map_congr_left fun x _ => hf x

end Exchange

namespace Primitives

/-- The exchanges are of the operations of the calls. -/
theorem map_operation_exchanges (P : Primitives σ) (calls : List Request) (s : σ) :
    (P.exchanges calls s).map (fun x => x.request.operation) = calls.map Request.operation := by
  have h := congrArg (List.map Request.operation) (P.map_request_exchanges calls s)
  rwa [List.map_map] at h

/-- There is one exchange for each call. -/
theorem length_exchanges (P : Primitives σ) (calls : List Request) (s : σ) :
    (P.exchanges calls s).length = calls.length := by
  have h := congrArg List.length (P.map_request_exchanges calls s)
  rwa [List.length_map] at h

end Primitives

/-! ### Primitives that fail in other ways -/

/-- In related states every request brings the same value on both sides, or fails on both, and
leaves related states behind. -/
structure Concord (P : Primitives σ) (P' : Primitives σ') (R : σ → σ' → Prop) : Prop where
  value? (q : Request) {s : σ} {s' : σ'} (h : R s s') :
    (P.reply q s).1.value? = (P'.reply q s').1.value?
  state (q : Request) {s : σ} {s' : σ'} (h : R s s') : R (P.reply q s).2 (P'.reply q s').2

namespace Bridge

/-- Both runs give one answer after the same calls, and leave related states. -/
structure Concordant (R : σ → σ' → Prop) (r : Run σ α) (r' : Run σ' α) : Prop where
  answer : r.answer = r'.answer
  calls : r.calls = r'.calls
  state : R r.state r'.state

/-- What a caller with a record of the primitive calls sees of a run. -/
def Run.visible (r : Run σ α) : α × List Request := (r.answer, r.calls)

variable {P : Primitives σ} {P' : Primitives σ'} {R : σ → σ' → Prop} {s : σ} {s' : σ'}

namespace Program

variable {q : Request} {next : q.Answer → Program α}

/-- Without a value a program ends. -/
theorem run_ask_of_value?_eq_none (next : q.Answer → Program α)
    (h : (P.reply q s).1.value? = none) :
    ∃ event, (ask q next).run P s
      = ⟨.error .unknownPrimitiveFailure, (P.reply q s).2, [q], [event]⟩ := by
  rcases hr : P.reply q s with ⟨a | f | _, s₁⟩ <;> rw [hr] at h
  · cases h
  · exact ⟨_, by rw [run, hr]⟩
  · exact ⟨_, by rw [run, hr]⟩

/-- With a value a program goes on. -/
theorem run_ask_of_value?_eq_some {a : q.Answer} (h : (P.reply q s).1.value? = some a) :
    (ask q next).run P s = ((next a).run P (P.reply q s).2).after q := by
  refine run_ask_of_value ?_
  rcases hr : P.reply q s with ⟨b | f | _, s₁⟩ <;> rw [hr] at h <;> cases h
  rfl

/-- Programs do not tell how a call has failed. -/
theorem concordant (hP : Concord P P' R) (p : Program α) (hs : R s s') :
    Concordant R (p.run P s) (p.run P' s') := by
  induction p generalizing s s' with
  | done a => exact ⟨rfl, rfl, hs⟩
  | ask q next ih =>
    have hvalue := hP.value? q hs
    have hstate := hP.state q hs
    rcases h : (P.reply q s).1.value? with _ | a
    · obtain ⟨_, hrun⟩ := run_ask_of_value?_eq_none next h
      obtain ⟨_, hrun'⟩ := run_ask_of_value?_eq_none next (hvalue.symm.trans h)
      rw [hrun, hrun']
      exact ⟨rfl, rfl, hstate⟩
    · rw [run_ask_of_value?_eq_some h, run_ask_of_value?_eq_some (hvalue.symm.trans h)]
      obtain ⟨answer, calls, state⟩ := ih a hstate
      exact ⟨answer, congrArg (q :: ·) calls, state⟩

end Program

/-- What passes the check tells nothing of how a call has failed, and what does not pass makes no
call. -/
theorem Checked.concordant (hP : Concord P P' R) (c : Checked (Program α)) (hs : R s s') :
    Concordant R (Checked.run P c s) (Checked.run P' c s') := by
  cases c with
  | ok p => exact p.concordant hP hs
  | error e => exact ⟨rfl, rfl, hs⟩

namespace Operation

/-- A verification settles equal answers alike. -/
theorem answer_finish_congr (op : Operation) {r : Run σ (Except Error Answer)}
    {r' : Run σ' (Except Error Answer)} (h : r.answer = r'.answer) :
    (op.finish r).answer = (op.finish r').answer := by
  rcases r with ⟨a, _, _, _⟩
  rcases r' with ⟨a', _, _, _⟩
  obtain rfl : a = a' := h
  cases a <;> rfl

/-- **No operation tells how a call has failed.** -/
theorem concordant (hP : Concord P P' R) (op : Operation) (hs : R s s') :
    Concordant R (op.run P s) (op.run P' s') := by
  obtain ⟨answer, calls, state⟩ := Checked.concordant hP op.procedure hs
  rw [run_eq_finish, run_eq_finish]
  constructor
  · exact op.answer_finish_congr answer
  · rwa [calls_finish, calls_finish]
  · rwa [state_finish, state_finish]

/-- One operation after the other, nothing comes to differ. -/
theorem map_visible_runAll (hP : Concord P P' R) (ops : List Operation) (hs : R s s') :
    (runAll P ops s).map Run.visible = (runAll P' ops s').map Run.visible := by
  induction ops generalizing s s' with
  | nil => rfl
  | cons op rest ih =>
    have hop := op.concordant hP hs
    have hhead : (op.run P s).visible = (op.run P' s').visible :=
      Prod.ext hop.answer hop.calls
    rw [runAll, runAll, List.map_cons, List.map_cons, hhead, ih hop.state]

end Operation

/-! ### Arguments of the same sizes -/

/-- A buffer of the same length without its content. -/
def blankBuffer (b : Buffer) : Buffer := List.replicate b.length 0

/-- A grid of the same shape without its content. -/
def blankGrid (grid : Grid) : Grid := grid.map fun row => List.replicate row.length 0

namespace Operation

/-- An operation of the same kind on arguments of the same sizes, without their content. -/
def blank : Operation → Operation
  | pedersen first second => .pedersen (blankBuffer first) (blankBuffer second)
  | sign privateKey message k =>
    .sign (blankBuffer privateKey) (blankBuffer message) (blankBuffer k)
  | signDeterministic privateKey message seed =>
    .signDeterministic (blankBuffer privateKey) (blankBuffer message) (seed.map blankBuffer)
  | verify key hash r w =>
    .verify (blankBuffer key) (blankBuffer hash) (blankBuffer r) (blankBuffer w)
  | verifySignature key hash signature =>
    .verifySignature (blankBuffer key) (blankBuffer hash) (blankBuffer signature)
  | publicKey privateKey => .publicKey (blankBuffer privateKey)
  | hades grid => .hades (blankGrid grid)
  | hadesState _ => .hadesState ⟨.zero, .zero, .zero⟩
  | pedersenOnElements elements => .pedersenOnElements (elements.map blankBuffer)
  | poseidonHash first second => .poseidonHash (blankBuffer first) (blankBuffer second)
  | poseidonHashSingle value => .poseidonHashSingle (blankBuffer value)
  | poseidonHashMany elements => .poseidonHashMany (elements.map blankBuffer)

end Operation

/-! ### Only sizes are looked at -/

/-- A blank buffer is as long as the buffer. -/
theorem length_blankBuffer (b : Buffer) : (blankBuffer b).length = b.length :=
  List.length_replicate

/-- The shape of a grid is all that is checked of it. -/
theorem gridFault_blankGrid (grid : Grid) : gridFault (blankGrid grid) = gridFault grid := by
  simp only [gridFault, blankGrid, List.length_map, List.zipIdx_map, List.findSome?_map]
  congr 2
  funext row
  simp

namespace Input

/-- An input of the same size without its content. -/
def blank : Input → Input
  | argument a => .argument ⟨a.role, a.name, blankBuffer a.buffer⟩
  | signature buffer => .signature (blankBuffer buffer)
  | grid rows => .grid (blankGrid rows)

/-- The size of an input is all that is checked of it. -/
theorem rejection?_blank (i : Input) : i.blank.rejection? = i.rejection? := by
  cases i with
  | argument a => simp only [blank, rejection?, length_blankBuffer]
  | signature buffer => simp only [blank, rejection?, length_blankBuffer]
  | grid rows => simp only [blank, rejection?, gridFault_blankGrid]

end Input

namespace Operation

/-- A blank operation checks blank inputs, by the same names and in the same order. -/
theorem inputs_blank (op : Operation) : op.blank.inputs = op.inputs.map Input.blank := by
  cases op with
  | signDeterministic d m seed => cases seed <;> rfl
  | pedersenOnElements elements =>
    simp only [blank, inputs, List.map_map]
    rfl
  | poseidonHashMany elements =>
    simp only [blank, inputs, List.map_map]
    rfl
  | _ => rfl

/-- So an operation is rejected by the sizes of its arguments. -/
theorem rejection?_blank (op : Operation) : op.blank.rejection? = op.rejection? := by
  rw [rejection?, rejection?, inputs_blank, List.findSome?_map]
  congr 1
  funext i
  exact i.rejection?_blank

/-- What an operation asks for depends on the sizes of its arguments. -/
theorem agenda_blank (op : Operation) : op.blank.agenda = op.agenda := by
  cases op <;> simp only [blank, agenda, List.length_map]

/-- What is answered instead of a result depends on the kind of operation. -/
theorem refusal_blank (op : Operation) : op.blank.refusal = op.refusal := by
  cases op <;> rfl

/-- What a verification adds to the log depends on the size of its signature at most. -/
theorem epilogue_blank (op : Operation) : op.blank.epilogue = op.epilogue := by
  cases op with
  | verifySignature q h signature => simp only [blank, epilogue, length_blankBuffer]
  | _ => rfl

end Operation

/-! ### Two runs -/

/-- The two runs end in the same error, and their logs differ at most in the words of a fault.  Where
the log tells of anything but completed calls, they give the same answer, be it an error or a
refusal. -/
structure Alike (r : Run σ (Except Error Answer)) (r' : Run σ' (Except Error Answer)) : Prop where
  muted : r.log.map Event.muted = r'.log.map Event.muted
  error (e : Error) : r.answer = .error e ↔ r'.answer = .error e
  refusal (h : ∃ event ∈ r.log, event.level ≠ .trace) : r.answer = r'.answer

namespace Operation

variable {op op' : Operation}

/-- Of two operations with arguments of the same sizes, one asks for what the other does. -/
theorem map_operation_calls (hsize : op.blank = op'.blank)
    (hlen : (op.run P s).calls.length = (op'.run P' s').calls.length) :
    (op.run P s).calls.map Request.operation = (op'.run P' s').calls.map Request.operation := by
  have h := List.prefix_iff_eq_take.1 (op.calls_isPrefix P s)
  have h' := List.prefix_iff_eq_take.1 (op'.calls_isPrefix P' s')
  rw [h, h', List.length_map, List.length_map, hlen, ← agenda_blank, hsize, agenda_blank]

/-- So what is made of each call from its operation and from something that the replies of both have
in common is made alike of both. -/
theorem map_exchanges_congr {β γ : Type} {f : Exchange → β} {g : Exchange → γ} {h : String → γ → β}
    (hf : ∀ x, f x = h x.request.operation (g x)) (hsize : op.blank = op'.blank)
    (hg : (P.exchanges (op.run P s).calls s).map g
      = (P'.exchanges (op'.run P' s').calls s').map g) :
    (P.exchanges (op.run P s).calls s).map f
      = (P'.exchanges (op'.run P' s').calls s').map f := by
  have hlen := congrArg List.length hg
  rw [List.length_map, List.length_map, Primitives.length_exchanges,
    Primitives.length_exchanges] at hlen
  rw [Exchange.map_eq_zipWith hf, Exchange.map_eq_zipWith hf, hg,
    Primitives.map_operation_exchanges, Primitives.map_operation_exchanges,
    map_operation_calls hsize hlen]

/-- Without a rejection an operation logs its calls, and answers if they all bring values. -/
theorem Course.of_accepted {r : Run σ (Except Error Answer)} (hr : Course P op s r)
    (h : op.rejection? = none) :
    ((∀ x ∈ P.exchanges r.calls s, x.outcome = .value) ∧ (∃ a, r.answer = .ok a) ∧
        r.log = (P.exchanges r.calls s).map Exchange.event) ∨
      ((∃ x ∈ P.exchanges r.calls s, x.outcome ≠ .value) ∧
        r.answer = op.refusal .unknownPrimitiveFailure ∧
        r.log = (P.exchanges r.calls s).map Exchange.event
          ++ op.epilogue .unknownPrimitiveFailure) := by
  have hcompletions : ∀ xs : List Exchange, (∀ x ∈ xs, x.succeeded = true) →
      xs.map Exchange.completion = xs.map Exchange.event := fun xs hxs =>
    List.map_congr_left fun x hx => (Exchange.event_of_succeeded (hxs x hx)).symm
  cases hr with
  | rejected e first => cases h.symm.trans first
  | answered _ a answer succeeded log =>
    refine .inl ⟨fun x hx => Exchange.succeeded_iff.1 (succeeded x hx), ⟨a, answer⟩, ?_⟩
    rw [log, hcompletions _ succeeded]
  | failed _ before last answer exchanges succeeded failed log =>
    refine .inr ⟨⟨last, by simp [exchanges], ?_⟩, answer, ?_⟩
    · rw [ne_eq, ← Exchange.succeeded_iff, failed]
      exact Bool.false_ne_true
    · rw [log, exchanges, hcompletions _ succeeded, List.map_append, List.append_assoc]
      rfl

/-- A rejection alone makes the answer and the log. -/
theorem Course.of_rejected {r : Run σ (Except Error Answer)} {e : Rejection}
    (hr : Course P op s r) (h : op.rejection? = some e) :
    r.answer = op.refusal (.invalidInputSize e.error) ∧ r.calls = [] ∧
      r.log = .rejected e :: op.epilogue (.invalidInputSize e.error) := by
  cases hr with
  | rejected e' first answer calls log =>
    obtain rfl : e' = e := Option.some.inj (first.symm.trans h)
    exact ⟨answer, calls, log⟩
  | answered accepted => cases h.symm.trans accepted
  | failed accepted => cases h.symm.trans accepted

/-- Two runs on arguments of the same sizes, whose calls have the same outcomes, log their calls and
then the same; and they give the same answer, unless both answer and log completed calls alone. -/
theorem same_course (hsize : op.blank = op'.blank)
    (houtcome : (P.exchanges (op.run P s).calls s).map Exchange.outcome
      = (P'.exchanges (op'.run P' s').calls s').map Exchange.outcome) :
    ∃ after, (op.run P s).log
        = (P.exchanges (op.run P s).calls s).map Exchange.event ++ after ∧
      (op'.run P' s').log
        = (P'.exchanges (op'.run P' s').calls s').map Exchange.event ++ after ∧
      ((op.run P s).answer = (op'.run P' s').answer ∨
        (∃ a, (op.run P s).answer = .ok a) ∧ (∃ a, (op'.run P' s').answer = .ok a) ∧
          ∀ event ∈ (op.run P s).log, event.level = .trace) := by
  -- whatever depends on the sizes alone is the same for both
  have hrejection : op'.rejection? = op.rejection? := by
    rw [← rejection?_blank op, hsize, rejection?_blank]
  have hrefusal : op'.refusal = op.refusal := by
    rw [← refusal_blank op, hsize, refusal_blank]
  have hepilogue : op'.epilogue = op.epilogue := by
    rw [← epilogue_blank op, hsize, epilogue_blank]
  rcases hr : op.rejection? with _ | e
  -- all calls of the one run bring values just when all calls of the other do
  · have hvalue : (∀ x ∈ P.exchanges (op.run P s).calls s, x.outcome = .value)
        ↔ ∀ x ∈ P'.exchanges (op'.run P' s').calls s', x.outcome = .value := by
      simpa only [List.forall_mem_map] using
        iff_of_eq (congrArg (fun outcomes => ∀ o ∈ outcomes, o = Reply.Outcome.value) houtcome)
    rcases (course_run P op s).of_accepted hr with ⟨hall, ha, hlog⟩ | ⟨hex, ha, hlog⟩ <;>
      rcases (course_run P' op' s').of_accepted (hrejection.trans hr) with
        ⟨hall', ha', hlog'⟩ | ⟨hex', ha', hlog'⟩
    · refine ⟨[], by rw [hlog, List.append_nil], by rw [hlog', List.append_nil],
        .inr ⟨ha, ha', fun event hevent => ?_⟩⟩
      rw [hlog, List.mem_map] at hevent
      obtain ⟨x, hx, rfl⟩ := hevent
      rw [Exchange.event_of_succeeded (Exchange.succeeded_iff.2 (hall x hx))]
      rfl
    · obtain ⟨x, hx, hne⟩ := hex'
      exact absurd (hvalue.1 hall x hx) hne
    · obtain ⟨x, hx, hne⟩ := hex
      exact absurd (hvalue.2 hall' x hx) hne
    · exact ⟨_, hlog, by rw [hlog', hepilogue], .inl (by rw [ha, ha', hrefusal])⟩
  · obtain ⟨ha, hcalls, hlog⟩ := (course_run P op s).of_rejected hr
    obtain ⟨ha', hcalls', hlog'⟩ := (course_run P' op' s').of_rejected (hrejection.trans hr)
    rw [hcalls, hcalls']
    exact ⟨_, hlog, by rw [hlog', hepilogue]; rfl, .inl (by rw [ha, ha', hrefusal])⟩

/-- **Errors show sizes and outcomes of calls alone,** and so do logs but for the words of a fault. -/
theorem alike (hsize : op.blank = op'.blank)
    (houtcome : (P.exchanges (op.run P s).calls s).map Exchange.outcome
      = (P'.exchanges (op'.run P' s').calls s').map Exchange.outcome) :
    Alike (op.run P s) (op'.run P' s') := by
  obtain ⟨after, hlog, hlog', hanswer⟩ := same_course hsize houtcome
  constructor
  · rw [hlog, hlog', List.map_append, List.map_append, List.map_map, List.map_map,
      map_exchanges_congr (f := Event.muted ∘ Exchange.event) Exchange.muted_event hsize houtcome]
  · intro e
    rcases hanswer with h | ⟨⟨a, ha⟩, ⟨a', ha'⟩, -⟩
    · rw [h]
    · rw [ha, ha']
      simp
  · rintro ⟨event, hevent, hlevel⟩
    rcases hanswer with h | ⟨-, -, htrace⟩
    · exact h
    · exact absurd (htrace event hevent) hlevel

/-- **With replies of the same kinds the whole log is the same.** -/
theorem log_congr (hsize : op.blank = op'.blank)
    (hkind : (P.exchanges (op.run P s).calls s).map Exchange.kind
      = (P'.exchanges (op'.run P' s').calls s').map Exchange.kind) :
    (op.run P s).log = (op'.run P' s').log := by
  obtain ⟨after, hlog, hlog', -⟩ := same_course hsize (Exchange.map_outcome_congr hkind)
  rw [hlog, hlog', map_exchanges_congr Exchange.event_eq hsize hkind]

/-- **Nothing leaks.**  How a request has failed shows in no answer and no call of any operations
run on the primitives after it.  What the arguments and the values of the replies are shows in no
error and no log; of the operation under which a fault is reported, the log shows its name and no
more. -/
theorem confidential (P : Primitives σ) (P' : Primitives σ') (s : σ) (s' : σ') :
    (∀ R, Concord P P' R → R s s' → ∀ ops,
      (runAll P ops s).map Run.visible = (runAll P' ops s').map Run.visible) ∧
    ∀ op op' : Operation, op.blank = op'.blank →
      ((P.exchanges (op.run P s).calls s).map Exchange.outcome
          = (P'.exchanges (op'.run P' s').calls s').map Exchange.outcome →
        Alike (op.run P s) (op'.run P' s')) ∧
      ((P.exchanges (op.run P s).calls s).map Exchange.kind
          = (P'.exchanges (op'.run P' s').calls s').map Exchange.kind →
        Alike (op.run P s) (op'.run P' s') ∧ (op.run P s).log = (op'.run P' s').log) :=
  ⟨fun _ hP hs ops => map_visible_runAll hP ops hs, fun _ _ hsize => ⟨alike hsize,
    fun hkind => ⟨alike hsize (Exchange.map_outcome_congr hkind), log_congr hsize hkind⟩⟩⟩

/-- Toy primitives that fail in a given way at every request that can bring a fault. -/
def failing (failure : (q : Request) → Reply q.Answer) : Primitives ℕ :=
  ⟨fun q n => (if q.canFault then failure q else .value (Script.toyAnswer q), n + 1)⟩

/-- Whether a signature fails by a panic or by a fault that tells the key, it is refused alike, and
the hash after it is the same; and the log of the failed signature is that for another key. -/
theorem confidential_of_failed_signature :
    (runAll (failing fun _ => .panic)
        [.signDeterministic (List.replicate 32 7) (List.replicate 32 1) none,
          .pedersen (List.replicate 32 7) (List.replicate 32 1)] 0).map Run.visible
      = (runAll (failing fun q => .fault ⟨q.operation, "the key is 7"⟩)
        [.signDeterministic (List.replicate 32 7) (List.replicate 32 1) none,
          .pedersen (List.replicate 32 7) (List.replicate 32 1)] 0).map Run.visible ∧
    (run (failing fun q => .fault ⟨q.operation, "no nonce"⟩)
        (.signDeterministic (List.replicate 32 7) (List.replicate 32 1) none) 0).log
      = (run (failing fun q => .fault ⟨q.operation, "no nonce"⟩)
        (.signDeterministic (List.replicate 32 9) (List.replicate 32 2) none) 5).log := by
  have hP : Concord (failing fun _ => .panic)
      (failing fun q => .fault ⟨q.operation, "the key is 7"⟩) Eq := by
    constructor
    · rintro q s s' rfl
      cases q <;> rfl
    · rintro q s s' rfl
      rfl
  have hkind : ((failing fun q => .fault ⟨q.operation, "no nonce"⟩).exchanges
        (run (failing fun q => .fault ⟨q.operation, "no nonce"⟩)
          (.signDeterministic (List.replicate 32 7) (List.replicate 32 1) none) 0).calls 0).map
          Exchange.kind
      = ((failing fun q => .fault ⟨q.operation, "no nonce"⟩).exchanges
        (run (failing fun q => .fault ⟨q.operation, "no nonce"⟩)
          (.signDeterministic (List.replicate 32 9) (List.replicate 32 2) none) 5).calls 5).map
          Exchange.kind := by decide +kernel
  have hlog := ((confidential (failing fun q => .fault ⟨q.operation, "no nonce"⟩)
    (failing fun q => .fault ⟨q.operation, "no nonce"⟩) 0 5).2
    (.signDeterministic (List.replicate 32 7) (List.replicate 32 1) none)
    (.signDeterministic (List.replicate 32 9) (List.replicate 32 2) none) rfl).2 hkind
  exact ⟨(confidential _ _ 0 0).1 Eq hP rfl _, hlog.2⟩

/-- Toy primitives whose faults say `d`, and are reported under `sign` if the first argument of the
request is 1, and else under `ecdsa_sign`. -/
def reporting : Primitives ℕ :=
  failing fun q => .fault ⟨if q.arguments.head? = some 1 then "sign" else "ecdsa_sign", "d"⟩

/-- A signature with the key `key`, and with the message and the nonce 1. -/
def signWith (key : UInt8) : Operation :=
  .sign (key :: List.replicate 31 0) (1 :: List.replicate 31 0) (1 :: List.replicate 31 0)

/-- **Faults of the same detail are not logged alike** where they are reported under different
operations: the signatures with the keys 1 and 2 have arguments of the same sizes and the same
outcome, but not the same log. -/
theorem reported_operation_is_logged :
    (signWith 1).blank = (signWith 2).blank ∧
    (reporting.exchanges ((signWith 1).run reporting 0).calls 0).map Exchange.outcome
      = (reporting.exchanges ((signWith 2).run reporting 0).calls 0).map Exchange.outcome ∧
    ((signWith 1).run reporting 0).log ≠ ((signWith 2).run reporting 0).log ∧
    ((signWith 1).run reporting 0).log.map Event.record
      = [⟨"WARN", "primitive reported a fault", [("operation", "sign"), ("fault", "sign: d")]⟩] ∧
    ((signWith 2).run reporting 0).log.map Event.record
      = [⟨"WARN", "primitive reported a fault",
        [("operation", "sign"), ("fault", "ecdsa_sign: d")]⟩] := by
  decide +kernel

end Operation
end Bridge
end StarkWire
