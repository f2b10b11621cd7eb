import MessageBox.Proofs.Dispatch
import MessageBox.Proofs.Machine.Activations
import MessageBox.Proofs.Machine.Sleepers

/-!
# Exit tokens

A run of the loop returns when its own token is signalled and nothing is on top of it, and for no other reason
(`Returns`); apart from that only a panic ends it (`Unwinds`). A signalled token stays signalled, so from then
on the run takes no task, and a run that starts with such a token takes none at all. The whole is `exit_tokens`.
-/

namespace MessageBox.Machine

/-! ### Threads that are awake -/

/-- A thread that is not asleep. -/
def Awake (m : Machine) (t : ThreadId) : Prop := ∀ th, m.threads[t]? = some th → th.asleep = false

/-- A thread that is awake executes its next instruction, if it can. -/
lemma Awake.exec {m : Machine} {t : ThreadId} {i rest} (h : m.Awake t)
    (hcode : m.codes[t]? = some (i :: rest)) : m.step (.exec t) = (m.execInstr t rest i).getD m := by
  obtain ⟨th, hth, hth'⟩ := Option.map_eq_some_iff.1 (List.getElem?_map .. ▸ hcode)
  exact step_awake hth hth' (h th hth)

/-- Only its own instructions put a thread to sleep. -/
lemma step_awake_other {m : Machine} {t : ThreadId} {mv : Move} (hmv : mv ≠ .exec t) (h : m.Awake t) :
    (m.step mv).Awake t := by
  intro th' hth'
  by_contra hs
  simp only [Bool.not_eq_false] at hs
  -- who sleeps now and did not move slept before
  have slept : ∀ {th}, m.threads[t]? = some th → th.asleep = true → False := by
    intro th hth hasleep
    rw [h th hth] at hasleep
    cases hasleep
  have hsteps := steps m mv
  generalize m.step mv = m' at hsteps hth'
  cases hsteps with
  | stuck _ => exact slept hth' hs
  | @fires v th i rest next sent m₁ hth hcode hawake hf =>
    have hvt : v ≠ t := fun he => hmv (he ▸ rfl)
    rcases hf.asleep hth hawake hth' hs with ⟨-, rfl, -⟩ | ⟨old, hold, hasleep, -⟩
    · exact slept (by simpa [goto, Machine.sleep, hvt] using hth') hs
    · exact slept hold hasleep
  | @takes v =>
    have hvt : v ≠ t := fun he => hmv (he ▸ rfl)
    exact slept (by simpa [goto, taken, emit, hvt] using hth') hs
  | @panics v _ rest =>
    have hvt : v ≠ t := fun he => hmv (he ▸ rfl)
    refine slept ?_ hs
    unfold Machine.panic at hth'
    dsimp only at hth'
    split at hth' <;> simpa [goto, emit, hvt] using hth'
  | @rouse v =>
    have hvt : v ≠ t → m.threads[t]? = some th' := fun hvt => by simpa [rouse, hvt] using hth'
    by_cases hvt' : v = t
    · subst hvt'
      simp only [rouse, List.getElem?_modify, if_true] at hth'
      obtain ⟨old, -, rfl⟩ := Option.map_eq_some_iff.1 hth'
      cases hs
    · exact slept (hvt hvt') hs
  | pass => exact slept hth' hs

/-- A thread that has just changed its code is awake. -/
lemma awake_of_changed {m : Machine} {t : ThreadId} {mv : Move} {code code' : List Instr}
    (ht : m.codes[t]? = some code) (ht' : (m.step mv).codes[t]? = some code') (hne : code' ≠ code) :
    (m.step mv).Awake t := by
  by_cases hmv : mv = .exec t
  case neg =>
    rw [codes_step_other hmv ht] at ht'
    cases ht'
    exact absurd rfl hne
  subst hmv
  intro th' hth'
  by_contra hs
  simp only [Bool.not_eq_false] at hs
  have hsteps := steps m (.exec t)
  generalize m.step (.exec t) = m' at hsteps hth' ht'
  rw [codes_getElem? hth'] at ht'
  cases ht'
  -- the thread was awake, and it stays so unless it falls asleep in its next instruction
  have slept : ∀ {th : Thread}, th.asleep = false → th.asleep = true → False := by
    intro th hawake hasleep
    rw [hawake] at hasleep
    cases hasleep
  cases hsteps with
  | stuck _ =>
    rw [codes_getElem? hth'] at ht
    cases ht
    exact hne rfl
  | fires hth hcode hawake hf =>
    rcases hf.asleep hth hawake hth' hs with ⟨hsame, -, -⟩ | ⟨old, hold, hasleep, -⟩
    · rw [codes_getElem? hth, hcode] at ht
      cases ht
      exact hne hsame
    · rw [hth] at hold
      cases hold
      exact slept hawake hasleep
  | @takes _ th _ _ _ _ hth _ hawake _ _ =>
    obtain rfl : { th with code := _ } = th' := by simpa [goto, taken, emit, hth] using hth'
    exact slept hawake hs
  | @panics _ th rest hth _ hawake =>
    unfold Machine.panic at hth'
    dsimp only at hth'
    split at hth'
    · obtain rfl : { th with code := _ } = th' := by simpa [goto, emit, hth] using hth'
      exact slept hawake hs
    · obtain rfl : { th with code := [], panicked := true } = th' := by simpa [hth] using hth'
      exact slept hawake hs

/-- A thread that has just started a run is awake. -/
lemma Begins.awake {m : Machine} {t : ThreadId} {token below mv} (h : Begins t token below m mv) :
    (m.step mv).Awake t := by
  obtain ⟨rfl, ⟨i, after, rest, ho, ht, rfl⟩, hafter⟩ := h
  refine awake_of_changed ht hafter fun he => ?_
  have hi : .pump token = i := (List.cons.inj he).1
  subst hi
  cases ho

/-! ### Reports of success -/

/-- Only the report of a run tells that the run has returned. -/
lemma LoopStep.reports {m : Machine} {t i next loop events token depth} (h : LoopStep m t i next loop events)
    (he : Event.ran token .ok depth ∈ events) : ∃ rethrow, i = .returned token rethrow := by
  cases h with
  | returned =>
    cases List.mem_singleton.1 he
    exact ⟨_, rfl⟩
  | enter | refuse | leave | post => cases List.mem_singleton.1 he
  | _ => cases he

/-- Whoever reports that its run has ended well has a token that is signalled. -/
lemma play_reported {m : Machine} (hm : m.Fresh) (moves : List Move) {token : Token} {depth : Nat}
    (h : Event.ran token .ok depth ∈ (m.play moves).trace) : token ∈ (m.play moves).loop.signalled := by
  induction moves using List.reverseRecOn with
  | nil => simp [trace, play_nil, hm.history] at h
  | append_singleton moves mv ih =>
    have htidy := play_tidy hm.tidy moves
    have old : Event.ran token .ok depth ∈ (m.play moves).trace →
        token ∈ ((m.play moves).step mv).loop.signalled := fun h => (step_grows _ mv).signalled (ih h)
    rw [play_concat] at h ⊢
    have hs := steps (m.play moves) mv
    generalize (m.play moves).step mv = m' at hs h old
    cases hs with
    | stuck _ => exact old h
    | @fires t th i rest next sent m₁ hth hcode _ hf =>
      obtain ⟨events, hl, htrace⟩ := hf.loopStep
      have h : Event.ran token .ok depth ∈ m₁.trace := h
      rw [htrace] at h
      rcases List.mem_append.1 h with h | h
      · exact old h
      · obtain ⟨rethrow, rfl⟩ := hl.reports h
        have hsignalled : token ∈ (m.play moves).loop.signalled := by
          cases htidy.stacked (hcode ▸ codes_getElem? hth) with
          | layers hlayers => cases hlayers with | plain hi _ => cases hi
          | report hmem _ => exact hmem
        exact hf.grows.signalled hsignalled
    | takes =>
      rw [trace_taken] at h
      rcases List.mem_append.1 h with h | h
      · exact old h
      · cases List.mem_singleton.1 h
    | @panics t th rest =>
      rw [trace_panic] at h
      rcases List.mem_append.1 h with h | h
      · exact old h
      · unfold caughtEvents at h
        cases hu : (unwind rest).2 <;> simp [hu] at h
    | rouse => exact old h
    | pass => exact old h

/-! ### What a token does to its run -/

/-- A run whose token is not signalled goes on, unless a panic unwinds it. -/
lemma play_unsignalled {m : Machine} {t : ThreadId} {token below top} (h : m.Runs t token below top)
    (moves : List Move) (hs : token ∉ (m.play moves).loop.signalled) :
    (∃ top', (m.play moves).Runs t token below top') ∨ Happens m moves (Unwinds t token below) := by
  rcases play_runs h moves with hgo | ⟨before, mv, hpre, hr⟩ | hu
  · exact .inl hgo
  · -- it would have returned with its token signalled, and the token would still be
    obtain ⟨more, rfl⟩ := hpre
    rw [List.append_assoc, play_append] at hs
    exact absurd ((play_grows ..).signalled hr.signalled) hs
  · exact .inr hu

/-- A run that is on top of its thread's stack with its token signalled takes no task, and returns if its
thread is awake. -/
lemma step_signalled {m : Machine} {t : ThreadId} {token below} (h : m.Runs t token below [])
    (hs : token ∈ m.loop.signalled) :
    (m.step (.exec t)).loop.queue = m.loop.queue ∧ (m.step (.exec t)).startedTasks = m.startedTasks ∧
      (m.Awake t → Returns t token below m (.exec t)) := by
  have hcode : m.codes[t]? = some (.pump token :: below) := h
  refine ⟨queue_return hcode hs, ?_, fun hawake => ⟨rfl, h, hs, ?_⟩⟩
  · cases step_dispatches m (.exec t) with
    | keeps _ _ hst => exact hst
    | posts _ _ _ hst => exact hst
    | takes hmv ht hn _ _ _ =>
      cases hmv
      rw [hcode] at ht
      cases ht
      exact absurd hs hn
  · rw [hawake.exec hcode]
    have hpump : (m.execInstr t below (.pump token)).getD m = m.pump t token below := rfl
    rw [hpump, pump, if_pos hs]
    exact codes_goto_self (m := ({ m with loop := { m.loop with depth := m.loop.depth - 1 } }).emit t _) hcode _

/-- While a thread with a run on its stack does not move, no task is started. -/
lemma step_started_other {m : Machine} (hm : m.Tidy) {t : ThreadId} {token below top}
    (h : m.Runs t token below top) {mv : Move} (hmv : mv ≠ .exec t) :
    (m.step mv).startedTasks = m.startedTasks := by
  cases step_dispatches m mv with
  | keeps _ _ hst => exact hst
  | posts _ _ _ hst => exact hst
  | @takes u _ _ _ he hu _ _ _ _ =>
    -- who takes a task owns the loop, as the thread that does not move
    have howner := hm.owner hu (List.mem_cons_self ..) rfl
    rw [h.owner hm] at howner
    cases howner
    exact absurd he hmv

/-- While others move, a run stays as it is, its thread stays awake, and no task is started. -/
lemma play_others {m : Machine} (hm : m.Tidy) {t : ThreadId} {token below top} (h : m.Runs t token below top)
    (hawake : m.Awake t) {others : List Move} (ho : .exec t ∉ others) :
    (m.play others).Runs t token below top ∧ (m.play others).Awake t ∧
      (m.play others).startedTasks = m.startedTasks := by
  induction others using List.reverseRecOn with
  | nil => exact ⟨h, hawake, rfl⟩
  | append_singleton others mv ih =>
    simp only [List.mem_append, List.mem_singleton, not_or] at ho
    obtain ⟨hruns, hawake', hstarted⟩ := ih ho.1
    have hmv : mv ≠ .exec t := fun he => ho.2 he.symm
    rw [play_concat]
    refine ⟨codes_step_other hmv hruns, step_awake_other hmv hawake', ?_⟩
    rw [step_started_other (play_tidy hm others) hruns hmv, hstarted]

/-- The start of a run neither takes a task nor starts one. -/
lemma Begins.dispatches {m : Machine} {t : ThreadId} {token below mv} (h : Begins t token below m mv) :
    (m.step mv).loop.queue = m.loop.queue ∧ (m.step mv).startedTasks = m.startedTasks := by
  obtain ⟨loop, hb, hloop, htrace⟩ := h.enters
  constructor
  · rw [hloop, bind_eq hb]
  · exact (startedTasks_of_trace htrace).trans (List.append_nil _)

/-! ### Tokens stop their own runs -/

/-- Whatever tasks, signals and panics there are: a run reports success only with its token signalled; a move
lets a run go on, or it returns, on top of its stack and with its token signalled, or it is unwound by a panic
that nothing on top of it catches; so, until its token is signalled, it goes on unless it is unwound. From the
signal on, the run takes no task when it is on top of its stack again, but returns. A run that starts with a
signalled token returns with the next move of its thread, takes no task and leaves the queue as it is. A
signalled token stays signalled. And before a run returns, each run that was on top of it has returned, by its
own token, or was unwound by a panic that did not reach the lower run, unless that one was unwound too. -/
theorem exit_tokens {m : Machine} (hm : m.Fresh) (moves more : List Move) :
    (∀ token depth, Event.ran token .ok depth ∈ (m.play moves).trace →
      token ∈ (m.play moves).loop.signalled) ∧
    (∀ t token below top mv, (m.play moves).Runs t token below top →
      (∃ top', (m.play (moves ++ [mv])).Runs t token below top') ∨
      Returns t token below (m.play moves) mv ∨ Unwinds t token below (m.play moves) mv) ∧
    (∀ t token below top, (m.play moves).Runs t token below top →
      token ∉ (m.play (moves ++ more)).loop.signalled →
      (∃ top', (m.play (moves ++ more)).Runs t token below top') ∨
      Happens (m.play moves) more (Unwinds t token below)) ∧
    (∀ t token below, token ∈ (m.play moves).loop.signalled → (m.play (moves ++ more)).Runs t token below [] →
      (m.play (moves ++ more ++ [.exec t])).loop.queue = (m.play (moves ++ more)).loop.queue ∧
      (m.play (moves ++ more ++ [.exec t])).startedTasks = (m.play (moves ++ more)).startedTasks ∧
      ((m.play (moves ++ more)).Awake t → Returns t token below (m.play (moves ++ more)) (.exec t))) ∧
    (∀ t token below, token ∈ (m.play moves).loop.signalled → Begins t token below (m.play moves) (.exec t) →
      .exec t ∉ more →
      (m.play (moves ++ [.exec t])).loop.queue = (m.play moves).loop.queue ∧
      Returns t token below (m.play (moves ++ [.exec t] ++ more)) (.exec t) ∧
      (m.play (moves ++ [.exec t] ++ more ++ [.exec t])).loop.queue =
        (m.play (moves ++ [.exec t] ++ more)).loop.queue ∧
      (m.play (moves ++ [.exec t] ++ more ++ [.exec t])).startedTasks = (m.play moves).startedTasks) ∧
    (∀ token ∈ (m.play moves).loop.signalled, token ∈ (m.play (moves ++ more)).loop.signalled) ∧
    (∀ t inner outer top mid below, (m.play moves).Runs t inner (mid ++ .pump outer :: below) top →
      Returns t outer below (m.play (moves ++ more)) (.exec t) →
      Happens (m.play moves) more (Returns t inner (mid ++ .pump outer :: below)) ∨
      Happens (m.play moves) more (fun s mv => Unwinds t inner (mid ++ .pump outer :: below) s mv ∧
        ∃ top', (s.step mv).Runs t outer below top') ∨
      Happens (m.play moves) more (Unwinds t outer below)) := by
  have stays : ∀ {later token}, token ∈ (m.play moves).loop.signalled →
      token ∈ (m.play (moves ++ later)).loop.signalled := by
    intro later token hs
    rw [play_append]
    exact (play_grows ..).signalled hs
  refine ⟨fun token depth => play_reported hm moves, fun t token below top mv h => ?_,
    fun t token below top h hs => ?_, fun t token below hs h => ?_, fun t token below hs h ho => ?_,
    fun token => stays, fun t inner outer top mid below h houter => ?_⟩
  · rw [play_concat]
    exact step_runs h mv
  · rw [play_append] at hs ⊢
    exact play_unsignalled h more hs
  · rw [play_concat]
    exact step_signalled h (stays hs)
  · -- the run starts, others move while it stays on top and awake, and then it returns
    have hruns : (m.play (moves ++ [.exec t])).Runs t token below [] := by
      rw [play_concat]
      exact h.after
    have hawake : (m.play (moves ++ [.exec t])).Awake t := by
      rw [play_concat]
      exact h.awake
    obtain ⟨hq, hst⟩ := h.dispatches
    obtain ⟨hruns', hawake', hst'⟩ := play_others (play_tidy hm.tidy _) hruns hawake ho
    rw [← play_append] at hruns' hawake' hst'
    obtain ⟨hq', hst'', hreturns⟩ := step_signalled hruns' (List.append_assoc moves .. ▸ stays hs)
    refine ⟨by rw [play_concat, hq], hreturns hawake', by rw [play_concat, hq'], ?_⟩
    rw [play_concat, hst'', hst', play_concat, hst]
  · rw [play_append] at houter
    exact ended_above h houter.runs

/-- A task signals the token of the outer run from inside an inner one, and only then that of the inner one. -/
def nestedExit : Machine :=
  start [[.post [.post [.signal (.named "outer"), .signal (.named "inner")], .run (.named "inner") false],
    .run (.named "outer") false]] [] .manual

/-- The inner run has returned when the outer one returns, although the outer token was signalled first. -/
theorem exit_tokens_nestedExit :
    Happens (nestedExit.play (List.replicate 8 (.exec 0))) (List.replicate 6 (.exec 0))
      (Returns 0 (.named "inner")
        ([.returned (.named "inner") false] ++
          [.pump (.named "outer"), .returned (.named "outer") false])) := by
  have hsignalled :
      (nestedExit.play (List.replicate 8 (.exec 0) ++ List.replicate 6 (.exec 0))).loop.signalled =
        [.named "inner", .named "outer"] := rfl
  have hruns : (nestedExit.play (List.replicate 8 (.exec 0))).Runs 0 (.named "inner")
      ([.returned (.named "inner") false] ++ [.pump (.named "outer"), .returned (.named "outer") false])
      [.op (.signal (.named "outer")), .op (.signal (.named "inner"))] := rfl
  have houter : Returns 0 (.named "outer") [.returned (.named "outer") false]
      (nestedExit.play (List.replicate 8 (.exec 0) ++ List.replicate 6 (.exec 0))) (.exec 0) := by
    refine ⟨rfl, rfl, ?_, rfl⟩
    rw [hsignalled]
    decide
  have hcalm : (nestedExit.play (List.replicate 8 (.exec 0))).panicFree (List.replicate 6 (.exec 0)) = true :=
    rfl
  obtain ⟨-, -, -, -, -, -, hnested⟩ := exit_tokens (m := nestedExit) (start_fresh ..)
    (List.replicate 8 (.exec 0)) (List.replicate 6 (.exec 0))
  rcases hnested _ _ _ _ _ _ hruns houter with hinner | hunwound | hunwound
  · exact hinner
  · exact absurd hunwound (not_happens_of_panicFree (fun _ _ h => h.1.findsPanic) hcalm)
  · exact absurd hunwound (not_happens_of_panicFree (fun _ _ => Unwinds.findsPanic) hcalm)

/-- A task signals the token of the outer run from inside an inner one, and panics. -/
def innerPanics : Machine :=
  start [[.post [.post [.signal (.named "outer"), .panic], .run (.named "inner") false],
    .run (.named "outer") false]] [] .manual

/-- The token of the inner run need not be signalled before the outer run returns: a panic may have unwound the
inner run. -/
theorem not_returned_before_outer :
    ¬ ∀ m : Machine, m.Fresh → ∀ moves more t inner outer top mid below,
      (m.play moves).Runs t inner (mid ++ .pump outer :: below) (.op (.signal outer) :: top) →
      Returns t outer below (m.play (moves ++ more)) (.exec t) →
      Happens (m.play moves) more (Returns t inner (mid ++ .pump outer :: below)) := by
  intro h
  have hsignalled :
      (innerPanics.play (List.replicate 8 (.exec 0) ++ List.replicate 3 (.exec 0))).loop.signalled =
        [.named "outer"] := rfl
  have hruns : (innerPanics.play (List.replicate 8 (.exec 0))).Runs 0 (.named "inner")
      ([.returned (.named "inner") false] ++ [.pump (.named "outer"), .returned (.named "outer") false])
      [.op (.signal (.named "outer")), .op .panic] := rfl
  have houter : Returns 0 (.named "outer") [.returned (.named "outer") false]
      (innerPanics.play (List.replicate 8 (.exec 0) ++ List.replicate 3 (.exec 0))) (.exec 0) := by
    refine ⟨rfl, rfl, ?_, rfl⟩
    rw [hsignalled]
    decide
  obtain ⟨before, mv, ⟨rest, hpre⟩, hinner⟩ := h innerPanics (start_fresh ..) _ _ _ _ _ _ _ _ hruns houter
  -- the token of the inner run would be signalled by now
  have hmem := (play_grows _ (mv :: rest)).signalled hinner.signalled
  rw [← play_append, ← List.singleton_append, ← List.append_assoc, hpre, ← play_append, hsignalled] at hmem
  simp at hmem

end MessageBox.Machine
