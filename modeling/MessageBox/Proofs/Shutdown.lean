import Mathlib.Data.List.Infix
import MessageBox.Proofs.Depth
import MessageBox.Proofs.ExitTokens

/-!
# Shutdown of the loop thread

A loop thread owns the loop and has one run of it as its program (`Serves`). It is shut down by closing the loop,
signalling the token of the run, and waiting for the thread to end (`Shutdown`). The run looks at its token before it
looks at the queue. So no task is started from the signal on (`play_retired`), and when the thread has ended, the
accepted tasks have all been started just if none was queued at the signal (`shutdown_strands_queue`). Who waits for
such a task waits for ever (`Still`, `accepted_task_stranded`).
-/

namespace MessageBox.Machine

/-- Where the loop thread is in its run. -/
inductive Tenure (token : Token) (rethrow : Bool) : List Instr → Prop where
  | ready :
    Tenure token rethrow [.op (.run token rethrow)]
  | running {top} :
    Tenure token rethrow (top ++ [.pump token, .returned token rethrow])
  | leaving :
    Tenure token rethrow [.returned token rethrow]
  /-- A panic of a task is rethrown. -/
  | failing :
    Tenure token rethrow [.op .panic]
  | done :
    Tenure token rethrow []

/-- A thread owns the loop and has one run of it as its program. -/
def Serves (m : Machine) (u : ThreadId) (token : Token) (rethrow : Bool) : Prop :=
  m.loop.owner = some u ∧ ∃ code, m.codes[u]? = some code ∧ Tenure token rethrow code

/-! ### One run and no other -/

/-- The loop thread begins its run, as it owns the loop. -/
lemma step_ready {m : Machine} {u : ThreadId} {token rethrow} (howner : m.loop.owner = some u)
    (hu : m.codes[u]? = some [.op (.run token rethrow)]) :
    ∃ code, (m.step (.exec u)).codes[u]? = some code ∧ Tenure token rethrow code := by
  rcases step_exec hu with he | ⟨next, sent, m₁, hf, he⟩ | ⟨_, _, _, hi, -⟩ | ⟨hi, -⟩
  · exact ⟨_, by rw [he]; exact hu, .ready⟩
  · have hcode : (m.step (.exec u)).codes[u]? = some (next ++ []) := he ▸ codes_goto_self (hf.code hu) _
    refine ⟨_, hcode, ?_⟩
    cases hf with
    | run =>
      show Tenure token rethrow ([] ++ [.pump token, .returned token rethrow])
      exact .running
    | runForeign hb => simp [Loop.bind, howner] at hb
    | post ho _ => cases ho
    | postClosed ho _ => cases ho
    | noCall hi _ => cases hi
    | noOffer hi _ => cases hi
  · cases hi
  · cases hi

/-- The loop thread reports the end of its run. -/
lemma step_leaving {m : Machine} {u : ThreadId} {token rethrow}
    (hu : m.codes[u]? = some [.returned token rethrow]) :
    ∃ code, (m.step (.exec u)).codes[u]? = some code ∧ Tenure token rethrow code := by
  rcases step_exec hu with he | ⟨next, sent, m₁, hf, he⟩ | ⟨_, _, _, hi, -⟩ | ⟨hi, -⟩
  · exact ⟨_, by rw [he]; exact hu, .leaving⟩
  · have hcode : (m.step (.exec u)).codes[u]? = some (next ++ []) := he ▸ codes_goto_self (hf.code hu) _
    refine ⟨_, hcode, ?_⟩
    cases hf with
    | returned => exact .done
    | noCall hi _ => cases hi
    | noOffer hi _ => cases hi
  · cases hi
  · cases hi

/-- The loop thread ends by the panic that it rethrows. -/
lemma step_failing {m : Machine} {u : ThreadId} {token rethrow} (hu : m.codes[u]? = some [.op .panic]) :
    ∃ code, (m.step (.exec u)).codes[u]? = some code ∧ Tenure token rethrow code := by
  rcases step_exec hu with he | ⟨next, sent, m₁, hf, -⟩ | ⟨_, _, _, hi, -⟩ | ⟨-, he⟩
  · exact ⟨_, by rw [he]; exact hu, .failing⟩
  · cases hf with
    | post ho _ => cases ho
    | postClosed ho _ => cases ho
    | noCall hi _ => cases hi
    | noOffer hi _ => cases hi
  · cases hi
  · have hlt : u < m.codes.length := (List.getElem?_eq_some_iff.1 hu).1
    refine ⟨[], ?_, .done⟩
    rw [he, codes_panic, List.getElem?_set_self hlt]
    rfl

/-- While its run is live, every move leaves the loop thread in its run, or at the end of it. -/
lemma step_running {m : Machine} {u : ThreadId} {token rethrow top}
    (hu : m.Runs u token [.returned token rethrow] top) (mv : Move) :
    ∃ code, (m.step mv).codes[u]? = some code ∧ Tenure token rethrow code := by
  rcases step_runs hu mv with ⟨top', hruns⟩ | hreturns | hunwinds
  · exact ⟨_, hruns, .running⟩
  · exact ⟨_, hreturns.after, .leaving⟩
  · refine ⟨_, hunwinds.after, ?_⟩
    cases rethrow with
    | false => exact .done
    | true => exact .failing

/-- Every move leaves the loop thread with its one run. -/
lemma step_serves {m : Machine} {u : ThreadId} {token rethrow} (mv : Move) (h : m.Serves u token rethrow) :
    (m.step mv).Serves u token rethrow := by
  obtain ⟨howner, code, hu, htenure⟩ := h
  refine ⟨(step_grows m mv).owner howner, ?_⟩
  by_cases hmv : mv = .exec u
  case neg => exact ⟨code, codes_step_other hmv hu, htenure⟩
  subst hmv
  cases htenure with
  | ready => exact step_ready howner hu
  | running => exact step_running hu _
  | leaving => exact step_leaving hu
  | failing => exact step_failing hu
  | done => exact ⟨[], step_finished _ hu, .done⟩

/-- In a run, the loop thread has nothing but its one run. -/
lemma play_serves {m : Machine} {u : ThreadId} {token rethrow} (h : m.Serves u token rethrow) (moves : List Move) :
    (m.play moves).Serves u token rethrow :=
  play_induction (P := fun m => m.Serves u token rethrow) h (fun _ mv h => step_serves mv h) moves

/-! ### From the signal on -/

/-- Nothing is accepted or started, and the queue stays. -/
def Retired (m m' : Machine) : Prop :=
  m'.loop.queue = m.loop.queue ∧ m'.acceptedTasks = m.acceptedTasks ∧ m'.startedTasks = m.startedTasks

/-- Nothing is accepted or started in two parts of a run if nothing is in each. -/
lemma Retired.trans {m m₁ m₂ : Machine} (h : m.Retired m₁) (h' : m₁.Retired m₂) : m.Retired m₂ :=
  ⟨h'.1.trans h.1, h'.2.1.trans h.2.1, h'.2.2.trans h.2.2⟩

/-- A closed loop that no run takes tasks from keeps them. -/
lemma step_retired {m : Machine} {mv : Move} (hclosed : m.loop.closed = true)
    (hidle : ∀ (t : ThreadId) token rest, m.codes[t]? = some (.pump token :: rest) → token ∈ m.loop.signalled) :
    m.Retired (m.step mv) := by
  cases step_dispatches m mv with
  | keeps hq ha hs => exact ⟨hq, ha, hs⟩
  | posts hopen _ _ _ =>
    rw [hclosed] at hopen
    cases hopen
  | takes _ ht hn _ _ _ => exact absurd (hidle _ _ _ ht) hn

/-- On top of the loop thread's stack is its own run, while there is no other. -/
lemma Serves.pump {m : Machine} {u : ThreadId} {token rethrow} (h : m.Serves u token rethrow) (hm : m.Tidy)
    (hc : m.Counted) (hdepth : m.loop.depth ≤ 1) {t : ThreadId} {token' rest}
    (ht : m.codes[t]? = some (.pump token' :: rest)) : token' = token := by
  obtain ⟨howner, code, hu, htenure⟩ := h
  -- only the owner has runs
  have howner' := hm.owner ht (List.mem_cons_self ..) rfl
  rw [howner] at howner'
  cases howner'
  have hpumps : pumps code ≤ 1 := by
    rw [← hc.depth hm howner hu]
    exact hdepth
  rw [hu] at ht
  generalize he : Instr.pump token' :: rest = code' at ht
  cases ht
  cases htenure with
  | @running top =>
    cases top with
    | nil =>
      cases he
      rfl
    | cons i top =>
      -- a second run would be below the first one
      obtain ⟨rfl, -⟩ := List.cons.inj he
      simp at hpumps
  | _ => cases he

/-- A closed loop whose thread has its token signalled and no other run starts nothing any more. -/
lemma play_retired {m : Machine} {u : ThreadId} {token rethrow} (h : m.Serves u token rethrow) (hm : m.Tidy)
    (hc : m.Counted) (hclosed : m.loop.closed = true) (hs : token ∈ m.loop.signalled) {moves : List Move}
    (hflat : ∀ before, before <+: moves → (m.play before).loop.depth ≤ 1) : m.Retired (m.play moves) := by
  induction moves using List.reverseRecOn with
  | nil => exact ⟨rfl, rfl, rfl⟩
  | append_singleton moves mv ih =>
    have hbefore := ih fun before hb => hflat before (hb.trans (List.prefix_append ..))
    rw [play_concat]
    refine hbefore.trans (step_retired (play_closed hclosed moves).1 ?_)
    intro t token' rest ht
    have htoken : token' = token :=
      (play_serves h moves).pump (play_tidy hm moves) (play_counted hc moves)
        (hflat moves (List.prefix_append ..)) ht
    rw [htoken]
    exact (play_grows m moves).signalled hs

/-- A closed loop whose thread has ended starts nothing any more. -/
lemma play_ended {m : Machine} {u : ThreadId} (hm : m.Tidy) (howner : m.loop.owner = some u)
    (hu : m.codes[u]? = some []) (hclosed : m.loop.closed = true) (moves : List Move) :
    m.Retired (m.play moves) := by
  have hended : ∀ moves : List Move, (m.play moves).codes[u]? = some [] :=
    play_induction (P := fun m => m.codes[u]? = some []) hu fun _ mv h => step_finished mv h
  induction moves using List.reverseRecOn with
  | nil => exact ⟨rfl, rfl, rfl⟩
  | append_singleton moves mv ih =>
    rw [play_concat]
    refine ih.trans (step_retired (play_closed hclosed moves).1 ?_)
    intro t token rest ht
    -- who runs the loop owns it, and the owner has no code
    have howner' := (play_tidy hm moves).owner ht (List.mem_cons_self ..) rfl
    rw [(play_grows m moves).owner howner] at howner'
    cases howner'
    rw [hended moves] at ht
    cases ht

/-! ### A shutdown -/

/-- A run may be cut before one of its moves. -/
lemma play_append_cons (m : Machine) (moves more : List Move) (mv : Move) :
    m.play (moves ++ mv :: more) = ((m.play moves).step mv).play more := by
  simp [play]

/-- A thread shuts the loop thread down: it closes the loop and signals the token, and the loop thread ends. From
the signal on, no run is live on top of another. -/
structure Drops (m : Machine) (v u : ThreadId) (token : Token) (before between after : List Move) : Prop where
  close : (m.play before).Executes (.exec v) (.op .close)
  signal : (m.play (before ++ .exec v :: between)).Executes (.exec v) (.op (.signal token))
  flat : ∀ moves, moves <+: after → (m.play (before ++ .exec v :: between ++ .exec v :: moves)).loop.depth ≤ 1
  joined : (m.play (before ++ .exec v :: between ++ .exec v :: after)).finished u = true

/-- A thread that closes the loop has it closed. -/
lemma Executes.close {m : Machine} {mv : Move} (h : m.Executes mv (.op .close)) :
    (m.step mv).loop.closed = true := by
  obtain ⟨t, th, rest, rfl, hth, hcode, hawake⟩ := h
  rw [step_awake hth hcode hawake]
  rfl

/-- A thread that signals a token has it signalled. -/
lemma Executes.signal {m : Machine} {mv : Move} {token : Token} (h : m.Executes mv (.op (.signal token))) :
    token ∈ (m.step mv).loop.signalled := by
  obtain ⟨t, th, rest, rfl, hth, hcode, hawake⟩ := h
  rw [step_awake hth hcode hawake]
  exact List.mem_cons_self ..

/-- A signal neither accepts nor starts a task, and leaves the queue. -/
lemma Executes.signal_retired {m : Machine} {mv : Move} {token : Token}
    (h : m.Executes mv (.op (.signal token))) : m.Retired (m.step mv) := by
  obtain ⟨t, th, rest, rfl, hth, hcode, hawake⟩ := h
  rw [step_awake hth hcode hawake]
  exact ⟨rfl, rfl, rfl⟩

/-- A loop thread that has finished has no code left. -/
lemma Serves.ended {m : Machine} {u : ThreadId} {token rethrow} (h : m.Serves u token rethrow)
    (hf : m.finished u = true) : m.codes[u]? = some [] := by
  obtain ⟨-, code, hu, -⟩ := h
  obtain ⟨th, hth, rfl⟩ := Option.map_eq_some_iff.1 (List.getElem?_map .. ▸ hu)
  rw [finished, hth, Option.all_some, List.isEmpty_iff] at hf
  rw [hu, hf]

variable {m : Machine} {u v : ThreadId} {token : Token} {rethrow : Bool} {before between after : List Move}

/-- The loop is closed as soon as the thread that shuts it down has closed it, and stays so. -/
lemma Drops.closed (h : m.Drops v u token before between after) :
    (m.play (before ++ .exec v :: between)).loop.closed = true := by
  rw [play_append_cons]
  exact (play_closed h.close.close between).1

/-- From the signal to the end of the loop thread nothing is started. -/
lemma Drops.retired (h : m.Drops v u token before between after) (hserves : m.Serves u token rethrow)
    (hm : m.Tidy) (hc : m.Counted) :
    (m.play (before ++ .exec v :: between)).Retired
      (m.play (before ++ .exec v :: between ++ .exec v :: after)) := by
  have hclosed := h.closed
  have hsignal := h.signal
  have hflat := h.flat
  have htidy := play_tidy hm (before ++ .exec v :: between)
  have hcounted := play_counted hc (before ++ .exec v :: between)
  have hserves := play_serves hserves (before ++ .exec v :: between)
  simp only [play_append_cons m (before ++ .exec v :: between)] at hflat ⊢
  generalize m.play (before ++ .exec v :: between) = s at hclosed hsignal hflat htidy hcounted hserves
  apply hsignal.signal_retired.trans
  exact play_retired (step_serves _ hserves) (step_tidy _ htidy) (step_counted _ hcounted)
    (step_closed _ hclosed) hsignal.signal hflat

/-- When the loop thread has ended, nothing is started any more. -/
lemma Drops.ended (h : m.Drops v u token before between after) (hserves : m.Serves u token rethrow) (hm : m.Tidy)
    (more : List Move) :
    (m.play (before ++ .exec v :: between ++ .exec v :: after)).Retired
      ((m.play (before ++ .exec v :: between ++ .exec v :: after)).play more) := by
  have hserves := play_serves hserves (before ++ .exec v :: between ++ .exec v :: after)
  apply play_ended (play_tidy hm _) hserves.1 (hserves.ended h.joined)
  rw [play_append]
  exact (play_closed h.closed _).1

/-- In a run, tasks started and queued are those that were queued first and those accepted, in this order. -/
lemma Fresh.fifo (hm : m.Fresh) (moves : List Move) :
    (m.play moves).startedTasks ++ (m.play moves).loop.queue = m.loop.queue ++ (m.play moves).acceptedTasks := by
  obtain ⟨taken, new, hstarted, haccepted, hq⟩ := play_dispatches m moves
  have hnothing : m.trace = [] := by simp [trace, hm.history]
  rw [hstarted, haccepted, startedTasks, acceptedTasks, hnothing]
  exact hq.symm

/-- However a shutdown of the loop thread interleaves with threads that post: from the signal on no task is started
and none is accepted, and so it stays for ever when the loop thread has ended. The tasks started by then, followed by
those queued at the signal, are the tasks accepted. So all of them have been started just if none was queued at the
signal, and the tasks queued there are still queued. -/
theorem shutdown_strands_queue (hm : m.Fresh) (hdepth : m.loop.depth = 0) (howner : m.loop.owner = some u)
    (hui : m.codes[u]? = some (load [.run token rethrow])) (hdrop : m.Drops v u token before between after) :
    let atSignal := m.play (before ++ .exec v :: between)
    let dropped := m.play (before ++ .exec v :: between ++ .exec v :: after)
    dropped.startedTasks = atSignal.startedTasks ∧ dropped.acceptedTasks = atSignal.acceptedTasks ∧
    dropped.loop.queue = atSignal.loop.queue ∧
    dropped.startedTasks ++ atSignal.loop.queue = m.loop.queue ++ dropped.acceptedTasks ∧
    (dropped.startedTasks = m.loop.queue ++ dropped.acceptedTasks ↔ atSignal.loop.queue = []) ∧
    ∀ more, (dropped.play more).loop.queue = atSignal.loop.queue ∧
      (dropped.play more).acceptedTasks = dropped.acceptedTasks ∧
      (dropped.play more).startedTasks = dropped.startedTasks := by
  intro atSignal dropped
  have hserves : m.Serves u token rethrow := ⟨howner, _, hui, .ready⟩
  obtain ⟨hqueue, haccepted, hstarted⟩ : atSignal.Retired dropped :=
    hdrop.retired hserves hm.tidy (hm.counted hdepth)
  have hfifo : dropped.startedTasks ++ atSignal.loop.queue = m.loop.queue ++ dropped.acceptedTasks := by
    rw [← hqueue]
    exact hm.fifo _
  refine ⟨hstarted, haccepted, hqueue, hfifo, ?_, fun more => ?_⟩
  · rw [← hfifo]
    exact List.self_eq_append_right
  · obtain ⟨hqueue', hkept⟩ := hdrop.ended hserves hm.tidy more
    exact ⟨hqueue'.trans hqueue, hkept⟩

/-- The loop thread is busy with a task while a worker asks and another thread shuts it down. -/
def busyLoop : Machine :=
  { start [[.run .ui false], [.ask 0 (.caller 0)], [.post [.say "busy"], .close, .signal .ui, .join 0]]
      [{ spec := saveSpec }] .manual with
    loop := { owner := some 0 } }

/-- The worker has posted its task and waits, and the loop thread is in the one before it. -/
def untilClose : List Move :=
  [.exec 2, .exec 2, .exec 0, .exec 0] ++ List.replicate 6 (.exec 1)

/-- The loop thread finishes its task and leaves. -/
def afterSignal : List Move :=
  [.exec 2, .exec 0, .exec 0, .exec 0, .exec 2]

/-- The machine with the busy loop thread is fresh. -/
lemma busyLoop_fresh : busyLoop.Fresh := (start_fresh ..).withLoop 0 []

/-- The busy loop thread is shut down as described. -/
lemma busyLoop_drops : busyLoop.Drops 2 0 .ui untilClose [.exec 2] afterSignal where
  close := ⟨2, _, _, rfl, rfl, rfl, rfl⟩
  signal := ⟨2, _, _, rfl, rfl, rfl, rfl⟩
  flat moves h := by
    have hall : ∀ moves ∈ afterSignal.inits,
        (busyLoop.play (untilClose ++ .exec 2 :: [Move.exec 2] ++ .exec 2 :: moves)).loop.depth ≤ 1 := by
      decide
    exact hall moves ((List.mem_inits _ _).2 h)
  joined := rfl

/-- The task of the worker stays in the queue. -/
theorem shutdown_strands_queue_busyLoop :
    (busyLoop.play (untilClose ++ .exec 2 :: [.exec 2] ++ .exec 2 :: afterSignal)).loop.queue = [[.create 0]] ∧
      (busyLoop.play (untilClose ++ .exec 2 :: [.exec 2] ++ .exec 2 :: afterSignal)).startedTasks =
        [load [.say "busy"]] := by
  have hsignal : (busyLoop.play (untilClose ++ .exec 2 :: [.exec 2])).loop.queue = [[.create 0]] := rfl
  have hstarted : (busyLoop.play (untilClose ++ .exec 2 :: [.exec 2])).startedTasks = [load [.say "busy"]] := rfl
  obtain ⟨hst, -, hq, -⟩ := shutdown_strands_queue busyLoop_fresh rfl rfl rfl busyLoop_drops
  exact ⟨hq.trans hsignal, hst.trans hstarted⟩

/-! ### Waiters that are left behind -/

/-- Every thread has ended or waits, without a limit, for a call that nobody has answered or interrupted. -/
def Still (m : Machine) : Prop :=
  ∀ (t : ThreadId) code, m.codes[t]? = some code →
    code = [] ∨ ∃ c rest call, code = .await c none :: rest ∧ m.calls[c]? = some call ∧
      call.handoff.permits = 0 ∧ call.handoff.interruptPending = false

/-- Where every thread has ended or waits for a call that nobody has answered, no move changes codes or calls. -/
lemma step_still {m : Machine} (h : m.Still) (mv : Move) :
    (m.step mv).codes = m.codes ∧ (m.step mv).calls = m.calls := by
  -- the only instructions left are looks at calls that find nothing
  have await_of : ∀ {t : ThreadId} {th i rest}, m.threads[t]? = some th → th.code = i :: rest →
      ∃ c call, i = .await c none ∧ m.calls[c]? = some call ∧ call.handoff.permits = 0 ∧
        call.handoff.interruptPending = false := by
    intro t th i rest hth hcode
    rcases h t _ (codes_getElem? hth) with hnil | ⟨c, rest', call, hawait, hcall⟩
    · rw [hcode] at hnil
      cases hnil
    · rw [hcode] at hawait
      cases hawait
      exact ⟨c, call, rfl, hcall⟩
  have hs := steps m mv
  generalize m.step mv = m' at hs
  cases hs with
  | stuck _ => exact ⟨rfl, rfl⟩
  | @fires t th i rest next sent m₁ hth hcode _ hf =>
    obtain ⟨c, call, rfl, hcall, hpermits, hinterrupt⟩ := await_of hth hcode
    cases hf with
    | noCall hi hnone =>
      cases hi
      rw [hcall] at hnone
      cases hnone
    | noOffer hi _ => cases hi
    | awaitReady hc hl =>
      rw [hcall] at hc
      cases hc
      have := check_ready hl
      omega
    | awaitInterrupted hc hl =>
      rw [hcall] at hc
      cases hc
      rw [check_interrupted hl] at hinterrupt
      cases hinterrupt
    | awaitTimedOut _ hl =>
      obtain ⟨-, time, hnone⟩ := check_timedOut hl
      cases hnone
    | awaitSleep _ _ =>
      have hsleep := sleep_goto hth
      rw [hcode] at hsleep
      show ((m.sleep t).goto t (.await c none :: rest)).codes = _ ∧ _
      rw [← hsleep]
      exact ⟨codes_sleep m t, rfl⟩
  | takes hth hcode =>
    obtain ⟨c, call, hi, -⟩ := await_of hth hcode
    cases hi
  | panics hth hcode =>
    obtain ⟨c, call, hi, -⟩ := await_of hth hcode
    cases hi
  | rouse => exact ⟨codes_rouse .., rfl⟩
  | pass => exact ⟨rfl, rfl⟩

/-- Who waits on a still machine waits for ever. -/
lemma play_still {m : Machine} (h : m.Still) (moves : List Move) :
    (m.play moves).codes = m.codes ∧ (m.play moves).calls = m.calls := by
  induction moves using List.reverseRecOn with
  | nil => exact ⟨rfl, rfl⟩
  | append_singleton moves mv ih =>
    have hstill : (m.play moves).Still := by
      rw [Still, ih.1, ih.2]
      exact h
    obtain ⟨hcodes, hcalls⟩ := step_still hstill mv
    rw [play_concat]
    exact ⟨hcodes.trans ih.1, hcalls.trans ih.2⟩

/-- Nobody panics and no run is nested, and still the shutdown returns with an accepted task that was not started.
The worker that waits for it waits for ever. -/
theorem accepted_task_stranded :
    let moves := untilClose ++ .exec 2 :: [.exec 2] ++ .exec 2 :: afterSignal
    busyLoop.Drops 2 0 .ui untilClose [.exec 2] afterSignal ∧ busyLoop.panicFree moves = true ∧
    [.create 0] ∈ (busyLoop.play moves).acceptedTasks ∧ [.create 0] ∉ (busyLoop.play moves).startedTasks ∧
    (busyLoop.play moves).codes[2]? = some [] ∧
    ∀ more, (busyLoop.play (moves ++ more)).codes[1]? = some [.await 0 none] := by
  intro moves
  have haccepted : (busyLoop.play moves).acceptedTasks = [load [.say "busy"], [.create 0]] := rfl
  have hstarted : (busyLoop.play moves).startedTasks = [load [.say "busy"]] := rfl
  have hcodes : (busyLoop.play moves).codes = [[], [.await 0 none], []] := rfl
  have hcalls : (busyLoop.play moves).calls = [{
      prompt := 0
      spec := saveSpec
      options := {}
      context := .worker
      ticket := .caller 0 }] := rfl
  have hstill : (busyLoop.play moves).Still := by
    intro t code ht
    rw [hcodes] at ht
    rcases t with _ | _ | _ | t
    · exact .inl (by simpa using ht.symm)
    · refine .inr ⟨0, [], _, by simpa using ht.symm, by rw [hcalls]; rfl, rfl, rfl⟩
    · exact .inl (by simpa using ht.symm)
    · simp at ht
  refine ⟨busyLoop_drops, rfl, ?_, ?_, by rw [hcodes]; rfl, fun more => ?_⟩
  · rw [haccepted]
    simp
  · rw [hstarted]
    simp [load]
  · rw [play_append, (play_still hstill more).1, hcodes]
    rfl

end MessageBox.Machine
