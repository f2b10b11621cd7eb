import MessageBox.Proofs.Machine.Growth

/-!
# The dispatch loop along a run

`LoopStep m t i next loop events` says once what the instruction `i` of thread `t` does to the dispatch loop:
the loop becomes `loop`, `events` happen to it, and `next` is what is left in the place of `i`. Every firing
is such a step (`Fires.loopStep`). A run that takes a task and a panic act on the loop as `Steps` says, and
`step_exec` gathers what a thread can do whose next instruction is known.
-/

namespace MessageBox.Machine

/-- Whether an instruction belongs to a run of the loop: the run itself, or the report of its end. -/
def Instr.ofRun : Instr → Bool
  | .pump _ | .returned _ _ => true
  | _ => false

/-- Code that neither runs the loop nor reports a run. -/
def Plain (code : List Instr) : Prop := ∀ i ∈ code, i.ofRun = false

/-- The instructions that start a run with a token, and what they leave behind the run. -/
inductive Opens : Instr → Token → List Instr → Prop where
  | run {token rethrow} :
    Opens (.op (.run token rethrow)) token [.returned token rethrow]
  | nest {c} :
    Opens (.nest c) (.call c) [.nestLeft c, .collect c]

/-- Whether an event happens to the loop. -/
def Event.ofLoop : Event → Bool
  | .accepted _ | .started _ | .entered _ | .left _ | .ran _ _ _ => true
  | _ => false

/-- What happened to the loop, oldest first. -/
def trace (m : Machine) : List Event := (m.history.toList.map Prod.snd).filter Event.ofLoop

/-- What an instruction does to the loop. -/
inductive LoopStep (m : Machine) (t : ThreadId) : Instr → List Instr → Loop → List Event → Prop where
  | enter {i token after loop} :
    Opens i token after →
    m.loop.bind t = (true, loop) →
    LoopStep m t i (.pump token :: after) { loop with depth := loop.depth + 1 } [.entered (loop.depth + 1)]
  | refuse {token rethrow} :
    (m.loop.bind t).1 = false →
    LoopStep m t (.op (.run token rethrow)) [] m.loop [.ran token (.refused .foreign) m.loop.depth]
  | leave {token} :
    token ∈ m.loop.signalled →
    LoopStep m t (.pump token) [] { m.loop with depth := m.loop.depth - 1 } [.left m.loop.depth]
  | doze {token} :
    token ∉ m.loop.signalled →
    LoopStep m t (.pump token) [.pump token] m.loop []
  | returned {token rethrow} :
    LoopStep m t (.returned token rethrow) [] m.loop [.ran token .ok m.loop.depth]
  | post {i next task} :
    Posts i task →
    m.loop.closed = false →
    Plain next →
    LoopStep m t i next { m.loop with queue := m.loop.queue ++ [task] } [.accepted task]
  | signal {token} :
    LoopStep m t (.op (.signal token)) [.wakeLoop] (m.loop.signal token) []
  | close :
    LoopStep m t (.op .close) [.wakeLoop] { m.loop with closed := true } []
  | bind :
    LoopStep m t (.op .bind) [] (m.loop.bind t).2 []
  | other {i next} :
    i.ofRun = false →
    Plain next →
    LoopStep m t i next m.loop []

/-! ### The trace -/

/-- Records are no events of another kind. -/
lemma told_note (m : Machine) (t : ThreadId) (records : List Log.Record) {p : Event → Bool}
    (hp : ∀ r, p (.logged r) = false) :
    ((m.note t records).history.toList.map Prod.snd).filter p = (m.history.toList.map Prod.snd).filter p := by
  induction records generalizing m with
  | nil => rfl
  | cons r records ih =>
    have hstep : m.note t (r :: records) = (m.emit t (.logged r)).note t records := rfl
    rw [hstep, ih]
    simp [emit, hp]

/-- What a program is told about its offer is no event of another kind. -/
lemma told_tellProgram (m : Machine) (t : ThreadId) (origin : Origin) (failure : Option ToolkitFailure)
    {p : Event → Bool} (hp : ∀ failure, p (.offered failure) = false) :
    ((m.tellProgram t origin failure).history.toList.map Prod.snd).filter p =
      (m.history.toList.map Prod.snd).filter p := by
  cases origin with
  | program => simp [tellProgram, emit, hp]
  | nested | posted => rfl

/-- Records of the log are no events of the loop. -/
lemma trace_note (m : Machine) (t : ThreadId) (records : List Log.Record) :
    (m.note t records).trace = m.trace :=
  told_note m t records fun _ => rfl

/-- What a program is told about its dialog is no event of the loop. -/
lemma trace_tellProgram (m : Machine) (t : ThreadId) (origin : Origin) (failure : Option ToolkitFailure) :
    (m.tellProgram t origin failure).trace = m.trace :=
  told_tellProgram m t origin failure fun _ => rfl

/-- Records of the log leave the loop alone. -/
lemma loop_note (m : Machine) (t : ThreadId) (records : List Log.Record) :
    (m.note t records).loop = m.loop := by
  rw [note_eq]

/-- What a program is told about its dialog leaves the loop alone. -/
lemma loop_tellProgram (m : Machine) (t : ThreadId) (origin : Origin) (failure : Option ToolkitFailure) :
    (m.tellProgram t origin failure).loop = m.loop := by
  rw [tellProgram_eq]

/-! ### Plain code -/

/-- A loaded program has no run in progress. -/
lemma plain_load (body : List Op) : Plain (load body) := by
  intro i hi
  obtain ⟨o, -, rfl⟩ := mem_load.1 hi
  rfl

/-- What follows an accepted offer has no run in progress. -/
lemma plain_accepted (origin : Origin) : Plain origin.accepted := by
  intro i hi
  obtain ⟨c, -, rfl⟩ := mem_accepted.1 hi
  rfl

/-- What follows a refused offer has no run in progress. -/
lemma plain_refused (e : ToolkitFailure) (origin : Origin) : Plain (origin.refused e) := by
  intro i hi
  rcases mem_refused.1 hi with ⟨c, -, rfl | rfl⟩ | ⟨c, -, rfl | rfl | rfl⟩ <;> rfl

/-- What follows a dialog on a screen has no run in progress. -/
lemma plain_presented (m : Machine) (d : DialogId) (o : Offer) : Plain (m.presented d o) := by
  intro i hi
  rcases mem_presented.1 hi with ⟨slot, -, -, rfl | ⟨c, -, rfl⟩⟩ | ⟨-, rfl⟩ <;> rfl

/-- A handler has no run in progress before it starts. -/
lemma plain_reaction (reaction : Reaction) : Plain reaction.code := by
  intro i hi
  rcases mem_reaction.1 hi with ⟨body, -, o, -, rfl⟩ | ⟨c, code, stops, -, rfl | ⟨-, rfl⟩⟩ <;> rfl

/-- Plain code stays plain with one more instruction that is not of a run. -/
lemma Plain.cons {i : Instr} {code : List Instr} (hi : i.ofRun = false) (h : Plain code) :
    Plain (i :: code) := by
  intro j hj
  rcases List.mem_cons.1 hj with rfl | hj
  · exact hi
  · exact h j hj

/-- Empty code is plain. -/
lemma Plain.nil : Plain [] := by
  simp [Plain]

/-- A posted task has no run in progress. -/
lemma Posts.plain {i : Instr} {task : Task} (h : Posts i task) : Plain task := by
  cases h with
  | @program o task ho =>
    cases o with
    | post body =>
      cases ho
      exact plain_load body
    | press index slot =>
      cases ho
      exact .cons rfl .nil
    | _ => cases ho
  | create => exact .cons rfl .nil
  | press => exact .cons rfl .nil

/-- A spawned thread has no run in progress. -/
lemma Spawns.plain {i : Instr} {code : List Instr} (h : Spawns i code) : Plain code := by
  cases h with
  | fork => exact plain_load _
  | later => exact .cons rfl (plain_load _)

/-- An instruction that opens a run is not of a run itself. -/
lemma Opens.plain {i : Instr} {token : Token} {after : List Instr} (h : Opens i token after) :
    i.ofRun = false := by
  cases h <;> rfl

/-! ### Every firing is a step of the loop -/

/-- An event is added to those of the loop if it is one of them. -/
lemma trace_emit (m : Machine) (t : ThreadId) (e : Event) :
    (m.emit t e).trace = m.trace ++ [e].filter Event.ofLoop := by
  simp [trace, emit]

/-- An event that is not of the loop is not added to those of the loop. -/
lemma trace_emit_other {m : Machine} {t : ThreadId} {e : Event} (h : e.ofLoop = false) :
    (m.emit t e).trace = m.trace := by
  simp [trace_emit, h]

/-- A firing acts on the loop as one of the steps, and its events are added to the trace. -/
lemma Fires.loopStep {m m₁ : Machine} {t i next sent} (h : Fires m t i next sent m₁) :
    ∃ events, LoopStep m t i next m₁.loop events ∧ m₁.trace = m.trace ++ events := by
  -- most instructions do nothing to the loop and leave plain code
  have other : i.ofRun = false → Plain next → m₁.loop = m.loop → m₁.trace = m.trace →
      ∃ events, LoopStep m t i next m₁.loop events ∧ m₁.trace = m.trace ++ events := by
    intro hi hn hl ht
    exact ⟨[], hl ▸ .other hi hn, by rw [ht, List.append_nil]⟩
  cases h with
  | post ho hc =>
    refine ⟨_, .post (.program ho) hc (.cons rfl .nil), ?_⟩
    rw [trace_emit_other rfl]
    exact trace_emit ..
  | run hb => exact ⟨_, .enter .run hb, trace_emit ..⟩
  | runForeign hb => exact ⟨_, .refuse hb, trace_emit ..⟩
  | signal => exact ⟨_, .signal, (List.append_nil _).symm⟩
  | bind => exact ⟨_, .bind, trace_emit ..⟩
  | close => exact ⟨_, .close, (List.append_nil _).symm⟩
  | leave hs => exact ⟨_, .leave hs, trace_emit ..⟩
  | doze hs _ => exact ⟨_, .doze hs, (List.append_nil _).symm⟩
  | returned => exact ⟨_, .returned, trace_emit ..⟩
  | nest _ hb =>
    refine ⟨_, .enter .nest hb, ?_⟩
    rw [trace_emit]
    exact congrArg (· ++ _) (trace_emit_other rfl)
  | schedule _ hc => exact ⟨_, .post .create hc (.cons rfl (.cons rfl .nil)), trace_emit ..⟩
  | @schedulePress d slot o _ hc =>
    refine ⟨[.accepted [.pressChosen d slot]], ?_, ?_⟩
    · rw [loop_tellProgram]
      exact .post .press hc (.cons rfl (plain_accepted _))
    · rw [trace_tellProgram]
      exact trace_emit ..
  | schedulePressClosed _ _ =>
    exact other rfl (plain_refused _ _) (loop_tellProgram ..) (trace_tellProgram ..)
  | @noCall i c hi _ =>
    refine other ?_ .nil rfl rfl
    cases i <;> first | rfl | cases hi
  | @noOffer i d hi _ =>
    refine other ?_ .nil rfl rfl
    cases i <;> first | rfl | cases hi
  | @ask p ticket q hq =>
    refine other rfl (.cons rfl (.cons ?_ .nil)) rfl (trace_emit_other rfl)
    cases (m.newCall t p q ticket).context <;> rfl
  | awaitInterrupted _ _ =>
    refine other rfl (.cons ?_ .nil) rfl (trace_emit_other rfl)
    split <;> rfl
  | presentOpen _ _ =>
    refine other rfl (plain_accepted _) (loop_tellProgram ..) ?_
    rw [trace_tellProgram]
    exact trace_emit_other rfl
  | presentInterrupt _ _ _ _ _ _ => exact other rfl (.cons rfl (plain_presented _ _ _)) rfl rfl
  | presentIgnored _ _ _ _ _ _ =>
    exact other rfl (plain_presented _ _ _) rfl (trace_emit_other rfl)
  | present _ _ _ _ => exact other rfl (plain_presented _ _ _) rfl rfl
  | acceptFailed _ _ => exact other rfl (plain_refused _ _) (loop_tellProgram ..) (trace_tellProgram ..)
  | keep _ => exact other rfl (plain_accepted _) (loop_tellProgram ..) (trace_tellProgram ..)
  | pressTaken _ _ => exact other rfl (plain_reaction _) rfl (trace_emit_other rfl)
  | pressChosen _ _ => exact other rfl (plain_reaction _) rfl (trace_emit_other rfl)
  | @conclude view slot =>
    refine other rfl ?_ (loop_note ..) (trace_note ..)
    cases (view.conclude slot).1 with
    | none => exact .nil
    | some reaction => exact plain_reaction reaction
  | keyClosed _ _ => exact other rfl (.cons rfl .nil) (loop_note ..) (trace_note ..)
  | key _ _ => exact other rfl .nil (loop_note ..) (trace_note ..)
  | dismissRefused _ _ _ =>
    refine other rfl .nil rfl ?_
    rw [trace_emit_other rfl, trace_emit_other rfl]
  | _ =>
    refine other rfl (by simp [Plain, Instr.ofRun]) rfl ?_
    first
    | rfl
    | exact trace_emit_other rfl

/-! ### Tasks that are taken, and panics -/

/-- What a panic with `rest` behind it leaves in the trace, if `depth` is what remains. -/
def caughtEvents (rest : List Instr) (depth : Nat) : List Event :=
  ((unwind rest).2.map fun found => Event.ran found.1 .panicked depth).toList

/-- A task that is taken is started by this. -/
lemma trace_taken (m : Machine) (t : ThreadId) (task : Task) (queue : List Task) (code : List Instr) :
    ((m.taken t task queue).goto t code).trace = m.trace ++ [Event.started task] := by
  exact trace_emit ..

/-- A panic takes the runs that it unwinds off the depth and leaves the rest of the loop alone. -/
lemma loop_panic (m : Machine) (t : ThreadId) (rest : List Instr) :
    (m.panic t rest).loop = { m.loop with depth := m.loop.depth - (unwind rest).1 } := by
  unfold Machine.panic
  dsimp only
  split <;> rfl

/-- A panic ends the runs that it unwinds, one after the other. -/
lemma trace_panic (m : Machine) (t : ThreadId) (rest : List Instr) :
    (m.panic t rest).trace = m.trace ++ caughtEvents rest (m.loop.depth - (unwind rest).1) := by
  unfold Machine.panic caughtEvents
  dsimp only
  split
  · next he => simp [he, trace, goto, emit, Event.ofLoop]
  · next he => simp [he, trace]

/-! ### The move of a thread -/

/-- What a thread can do whose next instruction is known. -/
lemma step_exec {m : Machine} {t : ThreadId} {i : Instr} {rest : List Instr}
    (ht : m.codes[t]? = some (i :: rest)) :
    m.step (.exec t) = m ∨
    (∃ next sent m₁, Fires m t i next sent m₁ ∧ m.step (.exec t) = m₁.goto t (next ++ rest)) ∨
    (∃ token task queue, i = .pump token ∧ token ∉ m.loop.signalled ∧ m.loop.queue = task :: queue ∧
      m.step (.exec t) = (m.taken t task queue).goto t (task ++ .pump token :: rest)) ∨
    (i = .op .panic ∧ m.step (.exec t) = m.panic t rest) := by
  -- the code of the thread is known, so what it executes is the instruction
  have same : ∀ {th j behind}, m.threads[t]? = some th → th.code = j :: behind → j = i ∧ behind = rest := by
    intro th j behind hth hcode
    rw [codes_getElem? hth, hcode] at ht
    cases ht
    exact ⟨rfl, rfl⟩
  have hs := steps m (.exec t)
  generalize hm' : m.step (.exec t) = m' at hs
  cases hs with
  | stuck _ => exact .inl rfl
  | fires hth hcode _ hf =>
    obtain ⟨rfl, rfl⟩ := same hth hcode
    exact .inr (.inl ⟨_, _, _, hf, rfl⟩)
  | takes hth hcode _ hs hq =>
    obtain ⟨rfl, rfl⟩ := same hth hcode
    exact .inr (.inr (.inl ⟨_, _, _, rfl, hs, hq, rfl⟩))
  | panics hth hcode _ =>
    obtain ⟨rfl, rfl⟩ := same hth hcode
    exact .inr (.inr (.inr ⟨rfl, rfl⟩))

/-- A thread that is awake executes its next instruction. -/
lemma step_awake {m : Machine} {t : ThreadId} {th : Thread} {i : Instr} {rest : List Instr}
    (ht : m.threads[t]? = some th) (hcode : th.code = i :: rest) (hawake : th.asleep = false) :
    m.step (.exec t) = (m.execInstr t rest i).getD m := by
  obtain ⟨name, code, asleep, panicked⟩ := th
  subst hcode hawake
  simp [step, exec, ht]

end MessageBox.Machine
