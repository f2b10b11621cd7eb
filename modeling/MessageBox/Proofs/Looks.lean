import MessageBox.Proofs.Announcements

/-!
# The looks of a waiter

A wait is a sequence of looks, one at each wake-up, whatever caused it. It ends at the first look that is due: an
interruption is pending, the state is ready, or the deadline is reached (`Wait.run_eq_some_iff`). What a waiter of a
monitor does in an interleaving is such a wait over the states and clock readings that it sees (`Monitor.sees`,
`Monitor.run_sees`). Both are stated together in `wait_ends_first_due`.
-/

namespace MessageBox

variable {σ υ δ β : Type}

namespace Wait

variable {w : Wait σ} {deadline : Option Nat} {now : Nat} {s t : σ} {result : Except WaitFailure Unit}
variable {looks later : List (σ × Nat)} {e : Ending σ}

/-- A look at which a wait ends. -/
def Due (w : Wait σ) (deadline : Option Nat) (look : σ × Nat) : Prop :=
  w.interrupted look.1 = true ∨ w.ready look.1 = true ∨ ∃ d, deadline = some d ∧ d ≤ look.2

/-- How a wait that ends answers the state it sees, and the state that it leaves. -/
inductive Answers (w : Wait σ) (s : σ) : Except WaitFailure Unit → σ → Prop where
  | interrupted :
    w.interrupted s = true →
    Answers w s (.error .interrupted) (w.clear s)
  | ready :
    w.interrupted s = false →
    w.ready s = true →
    Answers w s (.ok ()) s
  | timedOut :
    w.interrupted s = false →
    w.ready s = false →
    Answers w s (.error .timedOut) s

/-- A wait ends at the first look that is due, with the answer to what is seen there. -/
structure EndsAt (w : Wait σ) (deadline : Option Nat) (looks : List (σ × Nat)) (e : Ending σ) : Prop where
  look : ∃ look, looks[e.looks]? = some look ∧ w.Due deadline look ∧ w.Answers look.1 e.result e.state
  first : ∀ i < e.looks, ∀ look, looks[i]? = some look → ¬ w.Due deadline look

/-! ### One look -/

/-- A wait goes on where nothing ends it. -/
lemma not_due_iff :
    ¬ w.Due deadline (s, now) ↔
      w.interrupted s = false ∧ w.ready s = false ∧ ∀ d, deadline = some d → now < d := by
  simp only [Due, not_or, Bool.not_eq_true, not_exists, not_and, Nat.not_le]

/-- A wait that ends has one answer to a state. -/
lemma Answers.unique {result' : Except WaitFailure Unit} {t' : σ} (h : w.Answers s result t)
    (h' : w.Answers s result' t') : result = result' ∧ t = t' := by
  cases h <;> cases h' <;> simp_all

/-- What a cleared interruption leaves as it is, every answer does. -/
lemma Answers.keeps {ρ : Type} {rest : σ → ρ} (hclear : ∀ s, rest (w.clear s) = rest s)
    (h : w.Answers s result t) : rest t = rest s := by
  cases h with
  | interrupted => exact hclear s
  | ready | timedOut => rfl

/-- Where an interruption can be cleared, none is pending after an answer. -/
lemma Answers.not_interrupted (hclear : ∀ s, w.interrupted (w.clear s) = false) (h : w.Answers s result t) :
    w.interrupted t = false := by
  cases h with
  | interrupted => exact hclear s
  | ready hi | timedOut hi => exact hi

/-- A wait times out only where nothing else ends it. -/
lemma Answers.of_timedOut (h : w.Answers s result t) (hresult : result = .error .timedOut) :
    w.interrupted s = false ∧ w.ready s = false := by
  cases h with
  | interrupted | ready => cases hresult
  | timedOut hi hr => exact ⟨hi, hr⟩

/-- A look that is not due ends in sleep, for what is left until the deadline. -/
lemma check_not_due (h : ¬ w.Due deadline (s, now)) : w.check deadline now s = .sleep (deadline.map (· - now)) := by
  have hd := w.check_decides deadline now s
  generalize w.check deadline now s = look at hd ⊢
  cases hd with
  | interrupted hi => exact absurd (.inl hi) h
  | ready _ hr => exact absurd (.inr (.inl hr)) h
  | timedOut _ _ hd hle => exact absurd (.inr (.inr ⟨_, hd, hle⟩)) h
  | sleep => rfl

/-- A look that ends in sleep is not due. -/
lemma not_due_of_sleep {remaining : Option Nat} (h : w.check deadline now s = .sleep remaining) :
    ¬ w.Due deadline (s, now) := by
  have hd := w.check_decides deadline now s
  rw [h] at hd
  cases hd with
  | sleep hi hr hd => exact not_due_iff.2 ⟨hi, hr, hd⟩

/-! ### A whole wait -/

/-- A wait goes on after a look at which it does not end. -/
lemma run_cons_not_due (h : ¬ w.Due deadline (s, now)) :
    w.run deadline ((s, now) :: later) = (w.run deadline later).map fun e => { e with looks := e.looks + 1 } := by
  rw [run, check_not_due h]

/-- A wait ends with its first look if that one is due. -/
lemma run_cons_due (h : w.Due deadline (s, now)) (later : List (σ × Nat)) :
    ∃ e, w.run deadline ((s, now) :: later) = some e ∧ e.looks = 0 ∧ w.Answers s e.result e.state := by
  have hd := w.check_decides deadline now s
  rw [run]
  generalize hlook : w.check deadline now s = look at hd
  cases hd with
  | interrupted hi => exact ⟨_, rfl, rfl, .interrupted hi⟩
  | ready hi hr => exact ⟨_, rfl, rfl, .ready hi hr⟩
  | timedOut hi hr => exact ⟨_, rfl, rfl, .timedOut hi hr⟩
  | sleep => exact absurd h (not_due_of_sleep hlook)

/-- A wait ends at none of its looks just if none of them is due. -/
lemma run_eq_none_iff : w.run deadline looks = none ↔ ∀ look ∈ looks, ¬ w.Due deadline look := by
  induction looks with
  | nil => simp [run]
  | cons look later ih =>
    obtain ⟨s, now⟩ := look
    rw [List.forall_mem_cons]
    by_cases h : w.Due deadline (s, now)
    · obtain ⟨e, he, -⟩ := run_cons_due h later
      rw [he]
      exact iff_of_false (Option.some_ne_none e) fun hall => hall.1 h
    · rw [run_cons_not_due h, Option.map_eq_none_iff, ih]
      exact (and_iff_right h).symm

/-- A wait ends in one way. -/
lemma EndsAt.unique {e' : Ending σ} (h : w.EndsAt deadline looks e) (h' : w.EndsAt deadline looks e') : e = e' := by
  obtain ⟨look, hlook, hdue, hanswer⟩ := h.look
  obtain ⟨look', hlook', hdue', hanswer'⟩ := h'.look
  have hlooks : e.looks = e'.looks := by
    rcases Nat.lt_trichotomy e.looks e'.looks with hlt | heq | hgt
    · exact absurd hdue (h'.first _ hlt _ hlook)
    · exact heq
    · exact absurd hdue' (h.first _ hgt _ hlook')
  obtain rfl : look = look' := Option.some_inj.1 (by rw [← hlook, hlooks, hlook'])
  obtain ⟨hresult, hstate⟩ := hanswer.unique hanswer'
  cases e
  cases e'
  simp_all

/-- A wait that ends does so at the first look that is due. -/
lemma endsAt_of_run (h : w.run deadline looks = some e) : w.EndsAt deadline looks e := by
  induction looks generalizing e with
  | nil => cases h
  | cons look later ih =>
    obtain ⟨s, now⟩ := look
    by_cases hdue : w.Due deadline (s, now)
    · obtain ⟨e', he, hzero, hanswer⟩ := run_cons_due hdue later
      obtain rfl := Option.some_inj.1 (he.symm.trans h)
      refine ⟨⟨(s, now), by rw [hzero]; rfl, hdue, hanswer⟩, fun i hi => ?_⟩
      rw [hzero] at hi
      exact absurd hi (Nat.not_lt_zero i)
    · rw [run_cons_not_due hdue, Option.map_eq_some_iff] at h
      obtain ⟨e', he, rfl⟩ := h
      obtain ⟨hlook, hfirst⟩ := ih he
      refine ⟨hlook, fun i hi look hi' => ?_⟩
      cases i with
      | zero =>
        obtain rfl := Option.some_inj.1 hi'
        exact hdue
      | succ i => exact hfirst i (Nat.lt_of_succ_lt_succ hi) look hi'

/-- A wait ends at the first look that is due, and only there. -/
lemma run_eq_some_iff : w.run deadline looks = some e ↔ w.EndsAt deadline looks e := by
  refine ⟨endsAt_of_run, fun h => ?_⟩
  obtain ⟨look, hlook, hdue, -⟩ := h.look
  cases hrun : w.run deadline looks with
  | none => exact absurd hdue (run_eq_none_iff.1 hrun look (List.mem_of_getElem? hlook))
  | some e' => rw [(endsAt_of_run hrun).unique h]

end Wait

/-! ### Waiters of a monitor -/

/-- What a waiter returns by the end of its wait. -/
def Resource.answer (r : Resource σ υ δ β) (demand : δ) (e : Wait.Ending σ) : Except WaitFailure β :=
  e.result.map fun _ => (r.take demand e.state).1

/-- Whether a waiter is about to look. -/
def Waiter.awake (w : Waiter δ β) : Bool :=
  match w.phase with
  | .checking => true
  | _ => false

namespace Monitor

variable {r : Resource σ υ δ β} {m m' : Monitor σ δ β} {i : Nat} {w : Waiter δ β}
variable {result : Except WaitFailure β}

/-- What a waiter sees by a move: the state and the clock, if the move is its look. -/
def seen (m : Monitor σ δ β) (i : Nat) : Move υ δ → List (σ × Nat)
  | .look j => if j = i ∧ m.waiters[i]?.any Waiter.awake then [(m.state, m.clock)] else []
  | _ => []

/-- What a waiter sees in an interleaving. -/
def sees (r : Resource σ υ δ β) (m : Monitor σ δ β) (i : Nat) : List (Move υ δ) → List (σ × Nat)
  | [] => []
  | mv :: later => m.seen i mv ++ (m.step r mv).sees r i later

/-- How a waiter fares in a move, and what it sees by it. -/
inductive Fares (r : Resource σ υ δ β) (m m' : Monitor σ δ β) (i : Nat) (w : Waiter δ β) : List (σ × Nat) → Prop where
  | idle {v : Waiter δ β} :
    m'.waiters[i]? = some v →
    w.Continues v →
    (∀ result, v.phase = .finished result → w.phase = .finished result) →
    Fares r m m' i w []
  | ends {result s} :
    w.phase = .checking →
    Ends r m.clock m.state w result s →
    m'.waiters[i]? = some (w.finish result) →
    Fares r m m' i w [(m.state, m.clock)]
  | sleeps :
    w.phase = .checking →
    ¬ (r.wait w.demand).Due w.deadline (m.state, m.clock) →
    m'.waiters[i]? = some { w with phase := .asleep } →
    Fares r m m' i w [(m.state, m.clock)]

/-- A waiter that is about to look sees the state and the clock by its look. -/
lemma seen_look_self (hw : m.waiters[i]? = some w) (hp : w.phase = .checking) :
    m.seen i (.look i : Move υ δ) = [(m.state, m.clock)] := by
  simp [seen, hw, Waiter.awake, hp]

/-- A waiter sees nothing by the look of another one. -/
lemma seen_look_ne {j : Nat} (hj : j ≠ i) : m.seen i (.look j : Move υ δ) = [] := if_neg fun h => hj h.1

/-- A waiter that is not about to look sees nothing. -/
lemma seen_look_not_checking {j : Nat} (hj : ∀ w, m.waiters[j]? = some w → w.phase ≠ .checking) :
    m.seen i (.look j : Move υ δ) = [] := by
  refine if_neg fun ⟨hji, hawake⟩ => ?_
  obtain ⟨w, hw, hawake⟩ := (Option.any_eq_true ..).1 hawake
  unfold Waiter.awake at hawake
  split at hawake
  · next hp => exact hj w (hji ▸ hw) hp
  · cases hawake

/-- A waiter that a move leaves alone has seen nothing by it. -/
lemma Fares.same (hw : m'.waiters[i]? = some w) : Fares r m m' i w [] := .idle hw .refl fun _ => id

/-- A waiter that is roused has seen nothing by this. -/
lemma Fares.roused (hw : m'.waiters[i]? = some w.rouse) : Fares r m m' i w [] :=
  .idle hw .rouse fun _ => Waiter.rouse_finished

/-- Every move does to a waiter what `Fares` says. -/
lemma fares (hw : m.waiters[i]? = some w) (mv : Move υ δ) : Fares r m (m.step r mv) i w (m.seen i mv) := by
  have hs := steps r m mv
  generalize m.step r mv = m' at hs ⊢
  have hi := (List.getElem?_eq_some_iff.1 hw).1
  cases hs with
  | enter => exact .same (by rw [List.getElem?_append_left hi, hw])
  | update | pass | silent => exact .same hw
  | announce => exact .roused (by rw [List.getElem?_map, hw]; rfl)
  | @rouse j =>
    by_cases hj : j = i
    · exact .roused (by simp [hj, hw])
    · exact .same (by simp [hj, hw])
  | absent hj =>
    rw [seen_look_not_checking hj]
    exact .same hw
  | @look j v result s hv hp he =>
    by_cases hj : j = i
    · subst hj
      obtain rfl := Option.some_inj.1 (hw.symm.trans hv)
      rw [seen_look_self hw hp]
      exact .ends hp he (List.getElem?_set_self hi)
    · rw [seen_look_ne hj]
      exact .same (by rw [List.getElem?_set_ne hj, hw])
  | @sleep j v hv hp hint hready hlate =>
    by_cases hj : j = i
    · subst hj
      obtain rfl := Option.some_inj.1 (hw.symm.trans hv)
      rw [seen_look_self hw hp]
      exact .sleeps hp (Wait.not_due_iff.2 ⟨hint, hready, hlate⟩) (List.getElem?_set_self hi)
    · rw [seen_look_ne hj]
      exact .same (by rw [List.getElem?_set_ne hj, hw])

/-- A look that ends a call ends the wait over what is seen from it on. -/
lemma Ends.run {now : Nat} {s s' : σ} (h : Ends r now s w result s') (later : List (σ × Nat)) :
    ∃ e, (r.wait w.demand).run w.deadline ((s, now) :: later) = some e ∧ e.looks = 0 ∧
      r.answer w.demand e = result := by
  cases h with
  | interrupted hi =>
    exact ⟨⟨0, .error .interrupted, (r.wait w.demand).clear s⟩, by simp [Wait.run, Wait.check, hi], rfl, rfl⟩
  | ready hi hr ht =>
    exact ⟨⟨0, .ok (), s⟩, by simp [Wait.run, Wait.check, hi, hr], rfl, by simp [Resource.answer, Except.map, ht]⟩
  | timedOut hi hr hd hle => exact ⟨⟨0, .error .timedOut, s⟩, by simp [Wait.run, Wait.check, hi, hr, hd, hle], rfl, rfl⟩

/-- A call that has returned sees nothing any more. -/
lemma sees_finished (hw : m.waiters[i]? = some w) (hp : w.phase = .finished result) (moves : List (Move υ δ)) :
    m.sees r i moves = [] := by
  induction moves generalizing m w with
  | nil => rfl
  | cons mv later ih =>
    have hf := fares (r := r) hw mv
    generalize hseen : m.seen i mv = looks at hf
    rw [sees, hseen]
    cases hf with
    | idle hw' hcontinues => exact ih hw' (hcontinues.finished hp)
    | ends hp' | sleeps hp' => cases hp.symm.trans hp'

/-- A waiter returns just if the wait over what it sees ends, with its answer, and this is the last that it sees. -/
lemma run_sees (hw : m.waiters[i]? = some w) (hp : ∀ result, w.phase ≠ .finished result) (moves : List (Move υ δ)) :
    ∃ w', (m.run r moves).waiters[i]? = some w' ∧
      (∀ result, w'.phase = .finished result ↔
        ∃ e, (r.wait w.demand).run w.deadline (m.sees r i moves) = some e ∧ r.answer w.demand e = result) ∧
      ∀ e, (r.wait w.demand).run w.deadline (m.sees r i moves) = some e → (m.sees r i moves).length = e.looks + 1 := by
  induction moves generalizing m w with
  | nil => exact ⟨w, hw, fun result => iff_of_false (hp result) (by simp [sees, Wait.run]), by simp [sees, Wait.run]⟩
  | cons mv later ih =>
    have hf := fares (r := r) hw mv
    generalize hseen : m.seen i mv = looks at hf
    rw [sees, hseen, run_cons]
    cases hf with
    | idle hw' hcontinues hreturns =>
      have hlater := ih hw' fun result hr => hp result (hreturns result hr)
      rwa [hcontinues.demand, hcontinues.deadline] at hlater
    | ends hp' he hw' =>
      obtain ⟨w', hend, hcontinues⟩ := run_waiter (r := r) hw' later
      have hphase := hcontinues.finished rfl
      obtain ⟨e, hrun, hzero, hanswer⟩ := he.run []
      rw [sees_finished hw' rfl, List.append_nil, hrun]
      refine ⟨w', hend, fun result => ⟨fun hr => ⟨e, rfl, ?_⟩, ?_⟩, ?_⟩
      · exact hanswer.trans (Phase.finished.inj (hphase.symm.trans hr))
      · rintro ⟨e', he', rfl⟩
        obtain rfl := Option.some_inj.1 he'
        rw [hphase, hanswer]
      · intro e' he'
        rw [← Option.some_inj.1 he', hzero]
        rfl
    | sleeps hp' hdue hw' =>
      obtain ⟨w', hend, hreturns, hlast⟩ := ih hw' (by simp)
      rw [List.singleton_append, Wait.run_cons_not_due hdue]
      refine ⟨w', hend, fun result => (hreturns result).trans ⟨?_, ?_⟩, fun e he => ?_⟩
      · rintro ⟨e, he, rfl⟩
        exact ⟨_, congrArg (Option.map _) he, rfl⟩
      · rintro ⟨e, he, rfl⟩
        obtain ⟨e', he', rfl⟩ := Option.map_eq_some_iff.1 he
        exact ⟨e', he', rfl⟩
      · obtain ⟨e', he', rfl⟩ := Option.map_eq_some_iff.1 he
        rw [List.length_cons, hlast e' he']

/-! ### The clock -/

/-- By one move, a waiter sees nothing or the present state and clock. -/
lemma seen_eq (m : Monitor σ δ β) (i : Nat) (mv : Move υ δ) :
    m.seen i mv = [] ∨ m.seen i mv = [(m.state, m.clock)] := by
  cases mv with
  | look j => exact (ite_eq_or_eq ..).symm
  | _ => exact .inl rfl

/-- What a waiter sees is not older than the run. -/
lemma clock_le_of_mem_sees {moves : List (Move υ δ)} {look : σ × Nat} (h : look ∈ m.sees r i moves) :
    m.clock ≤ look.2 := by
  induction moves generalizing m with
  | nil => cases h
  | cons mv later ih =>
    obtain hnow | hlater := List.mem_append.1 h
    · obtain hseen | hseen := m.seen_eq i mv <;> rw [hseen] at hnow
      · cases hnow
      · exact Nat.le_of_eq (congrArg Prod.snd (List.mem_singleton.1 hnow)).symm
    · exact Nat.le_trans (run_clock m [mv]) (ih hlater)

/-- The clock of a waiter does not go back. -/
lemma sees_sorted (r : Resource σ υ δ β) (m : Monitor σ δ β) (i : Nat) (moves : List (Move υ δ)) :
    (m.sees r i moves).Pairwise fun a b => a.2 ≤ b.2 := by
  induction moves generalizing m with
  | nil => exact .nil
  | cons mv later ih =>
    rw [sees]
    obtain hseen | hseen := m.seen_eq i mv <;> rw [hseen]
    · exact ih _
    · exact .cons (fun look hlook => Nat.le_trans (run_clock m [mv]) (clock_le_of_mem_sees hlook)) (ih _)

end Monitor

/-- A wait over any looks ends just at the first one that is due, if there is one, and as it answers what is seen
there: an interruption beats readiness, and readiness beats a reached deadline. A look that is not due ends in sleep,
for a positive time if there is a deadline, and without a deadline no wait times out. Waits for permits or for a value
change nothing of the state but the interruption, and none is pending afterwards. A waiter of a monitor does the same in
every interleaving. The clock that it sees does not go back, it returns just if and as the wait over what it sees
ends, and then it does not look again. -/
theorem wait_ends_first_due (w : Wait σ) (deadline : Option Nat) (looks : List (σ × Nat)) :
    (∀ e, w.run deadline looks = some e ↔ w.EndsAt deadline looks e) ∧
    (w.run deadline looks = none ↔ ∀ look ∈ looks, ¬ w.Due deadline look) ∧
    (∀ s now, ¬ w.Due deadline (s, now) →
      w.check deadline now s = .sleep (deadline.map (· - now)) ∧ ∀ d, deadline = some d → 0 < d - now) ∧
    (∀ e, w.run none looks = some e → e.result ≠ .error .timedOut) ∧
    (∀ n deadline looks e, (Semaphore.wait n).run deadline looks = some e → ∃ look, looks[e.looks]? = some look ∧
      e.state.permits = look.1.permits ∧ e.state.interruptPending = false) ∧
    (∀ deadline looks e, (Handoff.wait (α := β)).run deadline looks = some e → ∃ look, looks[e.looks]? = some look ∧
      e.state.value = look.1.value ∧ e.state.permits = look.1.permits ∧ e.state.interruptPending = false) ∧
    ∀ (r : Resource σ υ δ β) (m : Monitor σ δ β) (i : Nat) (waiter : Waiter δ β) (moves : List (Monitor.Move υ δ)),
      m.waiters[i]? = some waiter → (∀ result, waiter.phase ≠ .finished result) →
      (m.sees r i moves).Pairwise (fun a b => a.2 ≤ b.2) ∧
      ∃ waiter', (m.run r moves).waiters[i]? = some waiter' ∧
        (∀ result, waiter'.phase = .finished result ↔
          ∃ e, (r.wait waiter.demand).run waiter.deadline (m.sees r i moves) = some e ∧
            r.answer waiter.demand e = result) ∧
        ∀ e, (r.wait waiter.demand).run waiter.deadline (m.sees r i moves) = some e →
          (m.sees r i moves).length = e.looks + 1 := by
  refine ⟨fun e => Wait.run_eq_some_iff, Wait.run_eq_none_iff, fun s now hdue => ⟨Wait.check_not_due hdue, ?_⟩,
    fun e he htimeout => ?_, fun n deadline looks e he => ?_, fun deadline looks e he => ?_,
    fun r m i waiter moves hwaiter hp => ⟨m.sees_sorted r i moves, Monitor.run_sees hwaiter hp moves⟩⟩
  · intro d hd
    obtain ⟨-, -, hlate⟩ := Wait.not_due_iff.1 hdue
    exact Nat.sub_pos_of_lt (hlate d hd)
  · obtain ⟨look, -, hdue, hanswer⟩ := (Wait.run_eq_some_iff.1 he).look
    obtain ⟨hi, hr⟩ := hanswer.of_timedOut htimeout
    exact absurd hdue (Wait.not_due_iff.2 ⟨hi, hr, nofun⟩)
  · obtain ⟨look, hlook, -, hanswer⟩ := (Wait.run_eq_some_iff.1 he).look
    exact ⟨look, hlook, hanswer.keeps fun _ => rfl, hanswer.not_interrupted fun _ => rfl⟩
  · obtain ⟨look, hlook, -, hanswer⟩ := (Wait.run_eq_some_iff.1 he).look
    exact ⟨look, hlook, hanswer.keeps fun _ => rfl, hanswer.keeps fun _ => rfl, hanswer.not_interrupted fun _ => rfl⟩

/-- Somebody waits 100 ms for two permits. -/
def hurried : Monitor Semaphore UInt32 Unit := { state := {}, waiters := [⟨2, some 100, .checking⟩] }

/-- The waiter wakes up by itself once, and only looks again after the permits and the deadline have come. -/
def lateRelease : List (Monitor.Move Semaphore.Update UInt32) :=
  [.look 0, .pass 40, .rouse 0, .look 0, .update (.release 2), .pass 100, .announce, .look 0]

/-- The permits are taken though the deadline has passed; had there been an interruption too, it would have been
answered, and the permits left. -/
theorem wait_ends_first_due_lateRelease :
    hurried.sees Semaphore.resource 0 lateRelease = [({}, 0), ({}, 40), ({ permits := 2 }, 140)] ∧
    (∃ waiter, (hurried.run Semaphore.resource lateRelease).waiters[0]? = some waiter ∧
      waiter.phase = .finished (.ok ())) ∧
    (Semaphore.wait 2).EndsAt (some 100) [({}, 0), ({ permits := 2, interruptPending := true }, 140)]
      ⟨1, .error .interrupted, { permits := 2 }⟩ := by
  have hsees : hurried.sees Semaphore.resource 0 lateRelease = [({}, 0), ({}, 40), ({ permits := 2 }, 140)] := rfl
  obtain ⟨hends, -, -, -, -, -, hmonitor⟩ :=
    wait_ends_first_due (Semaphore.wait 2) (some 100) [({}, 0), ({ permits := 2, interruptPending := true }, 140)]
  obtain ⟨-, waiter, hwaiter, hreturns, -⟩ :=
    hmonitor Semaphore.resource hurried 0 ⟨2, some 100, .checking⟩ lateRelease rfl nofun
  refine ⟨hsees, ⟨waiter, hwaiter, (hreturns (.ok ())).2 ⟨⟨2, .ok (), { permits := 2 }⟩, ?_, rfl⟩⟩, (hends _).1 rfl⟩
  rw [hsees]
  rfl

end MessageBox
