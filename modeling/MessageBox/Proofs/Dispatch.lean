import MessageBox.Proofs.Machine.Loop
import MessageBox.Proofs.Machine.Sound

/-!
# Dispatch in the order of acceptance

The queue is what the loop has accepted and not started yet, in the order of acceptance. A move keeps the
queue, adds a task at its end, or starts the task at its front (`Dispatches`, `step_dispatches`), and so a run
takes tasks off the front of what was queued and of what it adds (`play_dispatches`). From this comes
`dispatch_fifo`.
-/

namespace MessageBox.Machine

/-- The task that an event puts into the queue. -/
def Event.accepted? : Event → Option Task
  | .accepted task => some task
  | _ => none

/-- The task that an event starts. -/
def Event.started? : Event → Option Task
  | .started task => some task
  | _ => none

/-- The tasks the loop has accepted, in the order of acceptance. -/
def acceptedTasks (m : Machine) : List Task := m.trace.filterMap Event.accepted?

/-- The tasks whose execution has started, in the order of their starts. -/
def startedTasks (m : Machine) : List Task := m.trace.filterMap Event.started?

/-- What a move does to the queue; a task is taken by a run on top of its thread's stack, before its token is
signalled. -/
inductive Dispatches (m : Machine) (mv : Move) (m' : Machine) : Prop where
  | keeps :
    m'.loop.queue = m.loop.queue →
    m'.acceptedTasks = m.acceptedTasks →
    m'.startedTasks = m.startedTasks →
    Dispatches m mv m'
  | posts {task} :
    m.loop.closed = false →
    m'.loop.queue = m.loop.queue ++ [task] →
    m'.acceptedTasks = m.acceptedTasks ++ [task] →
    m'.startedTasks = m.startedTasks →
    Dispatches m mv m'
  | takes {t : ThreadId} {token rest task} :
    mv = .exec t →
    m.codes[t]? = some (.pump token :: rest) →
    token ∉ m.loop.signalled →
    m.loop.queue = task :: m'.loop.queue →
    m'.acceptedTasks = m.acceptedTasks →
    m'.startedTasks = m.startedTasks ++ [task] →
    Dispatches m mv m'

/-! ### One move -/

/-- Events that are added to the trace add the tasks that were accepted in them. -/
lemma acceptedTasks_of_trace {m m' : Machine} {events : List Event} (h : m'.trace = m.trace ++ events) :
    m'.acceptedTasks = m.acceptedTasks ++ events.filterMap Event.accepted? := by
  rw [acceptedTasks, h, List.filterMap_append, acceptedTasks]

/-- Events that are added to the trace add the tasks that were started in them. -/
lemma startedTasks_of_trace {m m' : Machine} {events : List Event} (h : m'.trace = m.trace ++ events) :
    m'.startedTasks = m.startedTasks ++ events.filterMap Event.started? := by
  rw [startedTasks, h, List.filterMap_append, startedTasks]

/-- Only a post changes the queue, of all that fires, and only of an open loop. -/
lemma LoopStep.queue {m : Machine} {t i next loop events} (h : LoopStep m t i next loop events) :
    (loop.queue = m.loop.queue ∧ events.filterMap Event.accepted? = [] ∧
      events.filterMap Event.started? = []) ∨
    ∃ task, Posts i task ∧ m.loop.closed = false ∧ loop.queue = m.loop.queue ++ [task] ∧
      events = [.accepted task] := by
  cases h with
  | enter _ hb => exact .inl ⟨by simp [bind_eq hb], rfl, rfl⟩
  | bind => exact .inl ⟨by simp [bind_eq (Prod.eta (m.loop.bind t)).symm], rfl, rfl⟩
  | post hp hc _ => exact .inr ⟨_, hp, hc, rfl, rfl⟩
  | _ => exact .inl ⟨rfl, rfl, rfl⟩

/-- Every move does to the queue what `Dispatches` says. -/
lemma step_dispatches (m : Machine) (mv : Move) : Dispatches m mv (m.step mv) := by
  have hs := steps m mv
  generalize m.step mv = m' at hs
  cases hs with
  | stuck _ => exact .keeps rfl rfl rfl
  | @fires t th i rest next sent m₁ _ _ _ hf =>
    obtain ⟨events, hl, ht⟩ := hf.loopStep
    have ht : (m₁.goto t (next ++ rest)).trace = m.trace ++ events := ht
    have haccepted := acceptedTasks_of_trace ht
    have hstarted := startedTasks_of_trace ht
    rcases hl.queue with ⟨hq, ha, hst⟩ | ⟨task, -, hc, hq, rfl⟩
    · exact .keeps hq (by rw [haccepted, ha, List.append_nil]) (by rw [hstarted, hst, List.append_nil])
    · exact .posts hc hq haccepted (hstarted.trans (List.append_nil _))
  | @takes t th token rest task queue hth hcode _ hs hq =>
    have ht := trace_taken m t task queue (task ++ .pump token :: rest)
    exact .takes rfl (hcode ▸ codes_getElem? hth) hs hq
      ((acceptedTasks_of_trace ht).trans (List.append_nil _)) (startedTasks_of_trace ht)
  | @panics t th rest _ _ _ =>
    have ht := trace_panic m t rest
    have hnone : ∀ depth, (caughtEvents rest depth).filterMap Event.accepted? = [] ∧
        (caughtEvents rest depth).filterMap Event.started? = [] := by
      intro depth
      unfold caughtEvents
      cases (unwind rest).2 with
      | none => exact ⟨rfl, rfl⟩
      | some found => exact ⟨rfl, rfl⟩
    refine .keeps (by rw [loop_panic]) ?_ ?_
    · rw [acceptedTasks_of_trace ht, (hnone _).1, List.append_nil]
    · rw [startedTasks_of_trace ht, (hnone _).2, List.append_nil]
  | rouse => exact .keeps rfl rfl rfl
  | pass => exact .keeps rfl rfl rfl

/-- A closed loop stays closed. -/
lemma step_closed {m : Machine} (mv : Move) (h : m.loop.closed = true) : (m.step mv).loop.closed = true := by
  rcases (steps m mv).fires_or_quiet with ⟨t, i, rest, next, sent, m₁, -, -, hf, he⟩ | hq
  · rw [he]
    show m₁.loop.closed = true
    obtain ⟨events, hl, -⟩ := hf.loopStep
    generalize m₁.loop = loop at hl
    cases hl with
    | enter _ hb => simp [bind_eq hb, h]
    | bind => simp [bind_eq (Prod.eta (m.loop.bind t)).symm, h]
    | close => rfl
    | _ => exact h
  · rw [hq.closed, h]

/-! ### A run -/

/-- A run starts what was queued and then what it adds, in this order, and the rest is queued after it. -/
lemma play_dispatches (m : Machine) (moves : List Move) :
    ∃ taken new, (m.play moves).startedTasks = m.startedTasks ++ taken ∧
      (m.play moves).acceptedTasks = m.acceptedTasks ++ new ∧
      m.loop.queue ++ new = taken ++ (m.play moves).loop.queue := by
  -- by its last move: a post adds to `new`, a task that is taken to `taken`, and the equation stays
  induction moves using List.reverseRecOn with
  | nil => exact ⟨[], [], by simp [play_nil]⟩
  | append_singleton moves mv ih =>
    obtain ⟨taken, new, hstarted, haccepted, hqueue⟩ := ih
    rw [play_concat]
    cases step_dispatches (m.play moves) mv with
    | keeps hq ha hs => exact ⟨taken, new, by rw [hs, hstarted], by rw [ha, haccepted], by rw [hq, hqueue]⟩
    | @posts task _ hq ha hs =>
      refine ⟨taken, new ++ [task], by rw [hs, hstarted], ?_, ?_⟩
      · rw [ha, haccepted, List.append_assoc]
      · rw [hq, ← List.append_assoc, hqueue, List.append_assoc]
    | @takes _ _ _ task _ _ _ hq ha hs =>
      refine ⟨taken ++ [task], new, ?_, by rw [ha, haccepted], ?_⟩
      · rw [hs, hstarted, List.append_assoc]
      · rw [hqueue, hq, List.append_assoc, List.singleton_append]

/-- In a run, a closed loop stays closed and accepts no task. -/
lemma play_closed {m : Machine} (h : m.loop.closed = true) (moves : List Move) :
    (m.play moves).loop.closed = true ∧ (m.play moves).acceptedTasks = m.acceptedTasks := by
  induction moves using List.reverseRecOn with
  | nil => exact ⟨h, rfl⟩
  | append_singleton moves mv ih =>
    obtain ⟨hc, ha⟩ := ih
    rw [play_concat]
    refine ⟨step_closed mv hc, ?_⟩
    cases step_dispatches (m.play moves) mv with
    | keeps _ ha' _ => rw [ha', ha]
    | posts hopen _ _ _ =>
      rw [hc] at hopen
      cases hopen
    | takes _ _ _ _ ha' _ => rw [ha', ha]

/-! ### Runs that end, refused posts, and a closed loop -/

/-- A run that is to return takes no task. -/
lemma queue_return {m : Machine} {t : ThreadId} {token rest} (ht : m.codes[t]? = some (.pump token :: rest))
    (hs : token ∈ m.loop.signalled) : (m.step (.exec t)).loop.queue = m.loop.queue := by
  rcases step_exec ht with he | ⟨next, sent, m₁, hf, he⟩ | ⟨_, _, _, hi, hn, -⟩ | ⟨hi, -⟩
  · rw [he]
  · rw [he]
    obtain ⟨events, hl, -⟩ := hf.loopStep
    rcases hl.queue with ⟨hq, -⟩ | ⟨_, hp, -⟩
    · exact hq
    · cases hp
  · cases hi
    exact absurd hs hn
  · cases hi

/-- What posts to a closed loop does nothing to it. -/
lemma LoopStep.refused {m : Machine} {t i next loop events task} (h : LoopStep m t i next loop events)
    (hp : Posts i task) (hc : m.loop.closed = true) : loop = m.loop ∧ events = [] := by
  cases h with
  | other => exact ⟨rfl, rfl⟩
  | post _ hopen _ =>
    rw [hc] at hopen
    cases hopen
  | enter ho _ =>
    cases ho with
    | run => cases hp with | program ho => cases ho
    | nest => cases hp
  | refuse | signal | close | bind => cases hp with | program ho => cases ho
  | leave | doze | returned => cases hp

end MessageBox.Machine
