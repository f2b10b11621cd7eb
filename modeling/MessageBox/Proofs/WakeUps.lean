import MessageBox.Proofs.Machine.Loop
import MessageBox.Proofs.Machine.Sleepers

/-!
# Wake-ups of the loop

A post, a signal and a close change the loop in one instruction and notify its sleeper in the next one, and
other threads may move in between. A run looks at the loop and falls asleep in one instruction. So whoever sleeps
in a run sleeps over an empty queue and a token that is not signalled, or a thread that has changed the loop has
its notification still before it (`Alert`, `step_alert`, `no_missed_wakeUp`).
-/

namespace MessageBox.Machine

/-- An instruction that changes the queue, the tokens or the gate of the loop. -/
inductive Instr.Updates : Instr → Prop where
  | post {i task} :
    Posts i task →
    Updates i
  | signal {token} :
    Updates (.op (.signal token))
  | close :
    Updates (.op .close)

/-- A thread whose next instruction notifies the thread that sleeps in the loop. -/
def Notifying (m : Machine) (t : ThreadId) : Prop := ∃ rest, m.codes[t]? = some (.wakeLoop :: rest)

/-- What a sleeping thread sleeps in; if it is a run, there is nothing for it, or somebody is about to notify
it. -/
inductive Rests (m : Machine) : List Instr → Prop where
  | loop {token rest} :
    (m.loop.queue = [] ∧ token ∉ m.loop.signalled) ∨ (∃ t, m.Notifying t) →
    Rests m (.pump token :: rest)
  | call {c deadline rest} :
    Rests m (.await c deadline :: rest)

/-- Nobody sleeps over what it would do in a run. -/
def Alert (m : Machine) : Prop :=
  ∀ {t : ThreadId} {th : Thread}, m.threads[t]? = some th → th.asleep = true → Rests m th.code

/-! ### Changes of the loop are followed by a notification -/

/-- What fires leaves queue, tokens and gate alone, or it is an update and leaves a notification first. -/
lemma Fires.notifies {m m₁ : Machine} {t i next sent} (hf : Fires m t i next sent m₁) :
    (m₁.loop.queue = m.loop.queue ∧ m₁.loop.signalled = m.loop.signalled ∧
      m₁.loop.closed = m.loop.closed ∧ .wakeLoop ∉ next) ∨
    i.Updates ∧ ∃ more, next = .wakeLoop :: more ∧ .wakeLoop ∉ more := by
  cases hf with
  | post ho _ => exact .inr ⟨.post (.program ho), [], rfl, List.not_mem_nil⟩
  | signal => exact .inr ⟨.signal, [], rfl, List.not_mem_nil⟩
  | close => exact .inr ⟨.close, [], rfl, List.not_mem_nil⟩
  | schedule _ _ => exact .inr ⟨.post .create, _, rfl, by simp⟩
  | schedulePress _ _ => exact .inr ⟨.post .press, _, rfl, by simp⟩
  | run hb => exact .inl (by simp [emit, bind_eq hb])
  | nest _ hb => exact .inl (by simp [emit, bind_eq hb])
  | bind => exact .inl (by simp [emit, bind_eq (Prod.eta (m.loop.bind t)).symm])
  | @ask p ticket q _ =>
    refine .inl ⟨rfl, rfl, rfl, ?_⟩
    cases (m.newCall t p q ticket).context <;> simp [Context.first]
  | awaitInterrupted _ _ =>
    refine .inl ⟨rfl, rfl, rfl, ?_⟩
    split <;> simp
  | @conclude view slot =>
    refine .inl ⟨by rw [note_eq], by rw [note_eq], by rw [note_eq], ?_⟩
    cases (view.conclude slot).1 <;> simp
  | _ =>
    exact .inl (by simp [note_eq, tellProgram_eq, emit, modifyCall, setActive, Machine.sleep, Machine.wake,
      Machine.spawn])

/-- A thread that is about to notify stays so while others move. -/
lemma Notifying.other {m : Machine} {t : ThreadId} {mv : Move} (h : m.Notifying t) (hmv : mv ≠ .exec t) :
    (m.step mv).Notifying t := by
  obtain ⟨rest, ht⟩ := h
  exact ⟨rest, codes_step_other hmv ht⟩

/-- Where neither queue nor tokens change and notifications stay, sleepers may sleep on. -/
lemma Rests.mono {m m' : Machine} {code} (h : Rests m code)
    (hloop : (m'.loop.queue = m.loop.queue ∧ m'.loop.signalled = m.loop.signalled) ∨ ∃ t, m'.Notifying t)
    (hn : ∀ t, m.Notifying t → m'.Notifying t) : Rests m' code := by
  cases h with
  | call => exact .call
  | loop h =>
    apply Rests.loop
    rcases hloop with ⟨hq, hs⟩ | hnew
    · rw [hq, hs]
      exact h.imp_right fun ⟨t, ht⟩ => ⟨t, hn t ht⟩
    · exact .inr hnew

/-! ### One move -/

/-- A thread that was awake and got other code is not the one that sleeps. -/
lemma asleep_modify {threads : List Thread} {t v : ThreadId} {th th' : Thread} {f : Thread → Thread}
    (ht : threads[t]? = some th) (hawake : th.asleep = false) (hf : ∀ th, (f th).asleep = th.asleep)
    (hv : (threads.modify t f)[v]? = some th') (hs : th'.asleep = true) : threads[v]? = some th' := by
  rw [List.getElem?_modify] at hv
  obtain ⟨old, hold, rfl⟩ := Option.map_eq_some_iff.1 hv
  by_cases htv : t = v
  · subst htv
    rw [ht] at hold
    cases hold
    simp [hf, hawake] at hs
  · rw [hold, if_neg htv]

/-- A thread that is about to notify does nothing else. -/
lemma Notifying.head {m : Machine} {t : ThreadId} {i rest} (h : m.Notifying t)
    (ht : m.codes[t]? = some (i :: rest)) : i = .wakeLoop := by
  obtain ⟨_, hcode⟩ := h
  rw [ht] at hcode
  exact (List.cons.inj (Option.some.inj hcode)).1

/-- What fires leaves nobody asleep over what it would do. -/
lemma Fires.alert {m m₁ : Machine} {t v : ThreadId} {th th' i rest next sent} (hf : Fires m t i next sent m₁)
    (ht : m.threads[t]? = some th) (hcode : th.code = i :: rest) (hawake : th.asleep = false) (h : m.Alert)
    (hn : ∀ u, m.Notifying u → u ≠ t → (m₁.goto t (next ++ rest)).Notifying u)
    (hv : (m₁.goto t (next ++ rest)).threads[v]? = some th') (hs : th'.asleep = true) :
    Rests (m₁.goto t (next ++ rest)) th'.code := by
  have hcodes : m.codes[t]? = some (i :: rest) := hcode ▸ codes_getElem? ht
  rcases hf.asleep ht hawake hv hs with ⟨hc, -, hd⟩ | ⟨old, hold, hasleep, hc, hw⟩
  · -- it has just looked, and found nothing
    rw [hc]
    cases hd with
    | call _ _ => exact .call
    | loop hunsignalled =>
      cases hf with
      | doze _ hq => exact .loop (.inl ⟨hq, hunsignalled⟩)
      | leave hs => exact absurd hs hunsignalled
      | noCall hi _ => cases hi
      | noOffer hi _ => cases hi
  · -- it slept before, so this was no notification
    rw [hc]
    have hrests := h hold hasleep
    generalize old.code = code at hrests hw
    cases hrests with
    | call => exact .call
    | loop hloop =>
      have hi : i ≠ .wakeLoop := by
        rintro rfl
        cases hw _ _ rfl
      refine (Rests.loop hloop).mono ?_ fun u hu => hn u hu ?_
      · rcases hf.notifies with ⟨hq, hs, -, -⟩ | ⟨-, more, rfl, -⟩
        · exact .inl ⟨hq, hs⟩
        · exact .inr ⟨t, _, codes_goto_self (hf.code hcodes) _⟩
      · rintro rfl
        exact hi (hu.head hcodes)

/-- Every move keeps sleepers from what they would do in a run. -/
lemma step_alert {m : Machine} (mv : Move) (h : m.Alert) : (m.step mv).Alert := by
  intro v th' hv hs
  have stays : ∀ t, m.Notifying t → mv ≠ .exec t → (m.step mv).Notifying t := fun _ => Notifying.other
  have hsteps := steps m mv
  generalize m.step mv = m' at hsteps hv stays
  cases hsteps with
  | stuck _ => exact h hv hs
  | @fires t th i rest next sent m₁ ht hcode hawake hf =>
    apply hf.alert ht hcode hawake h _ hv hs
    intro u hu hut
    exact stays u hu fun he => hut (Move.exec.inj he).symm
  | @takes t th token rest task queue ht hcode hawake _ hq =>
    have hcodes : m.codes[t]? = some (.pump token :: rest) := hcode ▸ codes_getElem? ht
    have hold : m.threads[v]? = some th' := by
      refine asleep_modify ht hawake ?_ hv hs
      exact fun _ => rfl
    -- the queue was not empty, so somebody else is about to notify
    have hrests := h hold hs
    generalize th'.code = code at hrests
    cases hrests with
    | call => exact .call
    | loop hloop =>
      rcases hloop with ⟨hempty, -⟩ | ⟨u, hu⟩
      · rw [hq] at hempty
        cases hempty
      · refine .loop (.inr ⟨u, stays u hu ?_⟩)
        intro he
        cases he
        cases hu.head hcodes
  | @panics t th rest ht hcode hawake =>
    have hcodes : m.codes[t]? = some (.op .panic :: rest) := hcode ▸ codes_getElem? ht
    have hold : m.threads[v]? = some th' := by
      unfold Machine.panic at hv
      dsimp only at hv
      split at hv
      · refine asleep_modify ht hawake ?_ hv hs
        exact fun _ => rfl
      · refine asleep_modify ht hawake ?_ hv hs
        exact fun _ => rfl
    refine (h hold hs).mono (.inl ?_) fun u hu => stays u hu ?_
    · rw [loop_panic]
      exact ⟨rfl, rfl⟩
    · intro he
      cases he
      cases hu.head hcodes
  | @rouse t =>
    have hold : m.threads[v]? = some th' := by
      simp only [rouse, List.getElem?_modify] at hv
      obtain ⟨old, hold, rfl⟩ := Option.map_eq_some_iff.1 hv
      split at hs
      · cases hs
      · next htv => rw [hold, if_neg htv]
    exact (h hold hs).mono (.inl ⟨rfl, rfl⟩) fun u hu => stays u hu (by simp)
  | pass => exact (h hv hs).mono (.inl ⟨rfl, rfl⟩) fun u hu => stays u hu (by simp)

/-! ### Who is about to notify has changed the loop -/

/-- Notifications come first in the code of their threads, and are no part of tasks. -/
structure NotifiesFirst (m : Machine) : Prop where
  codes : ∀ {t : ThreadId} {i rest}, m.codes[t]? = some (i :: rest) → .wakeLoop ∉ rest
  queue : ∀ task ∈ m.loop.queue, .wakeLoop ∉ task

/-- A posted task notifies nobody of the loop. -/
lemma Posts.not_wakeLoop {i : Instr} {task : Task} (h : Posts i task) : .wakeLoop ∉ task := by
  cases h with
  | @program o _ ho =>
    cases o with
    | post body =>
      cases ho
      simp
    | press index slot =>
      cases ho
      simp
    | _ => cases ho
  | create => simp
  | press => simp

/-- A spawned thread notifies nobody of the loop. -/
lemma Spawns.not_wakeLoop {i : Instr} {code : List Instr} (h : Spawns i code) : .wakeLoop ∉ code := by
  intro hj
  rcases h.mem hj with ⟨o, ho⟩ | ⟨time, ho⟩
  · cases ho
  · cases ho

/-- A task that is taken brings no notification. -/
lemma NotifiesFirst.taken {m : Machine} (h : m.NotifiesFirst) {t : ThreadId} {token rest task queue}
    (ht : m.codes[t]? = some (.pump token :: rest)) (hq : m.loop.queue = task :: queue) :
    .wakeLoop ∉ task ++ .pump token :: rest := by
  have htask := h.queue task (hq ▸ List.mem_cons_self ..)
  have hrest := h.codes ht
  simp [htask, hrest]

/-- Nor does a panic leave one. -/
lemma NotifiesFirst.caught {m : Machine} (h : m.NotifiesFirst) {t : ThreadId} {rest}
    (ht : m.codes[t]? = some (.op .panic :: rest)) : .wakeLoop ∉ Machine.caught rest := by
  intro hj
  rcases List.mem_cons.1 ((caught_sublist rest).subset hj) with hj | hj
  · cases hj
  · exact h.codes ht hj

/-- Every move leaves notifications first in the code of their threads. -/
lemma step_notifiesFirst {m : Machine} (mv : Move) (h : m.NotifiesFirst) : (m.step mv).NotifiesFirst := by
  have hs := steps m mv
  generalize m.step mv = m' at hs
  cases hs with
  | stuck _ => exact h
  | @fires t th i rest next sent m₁ hth hcode _ hf =>
    have ht : m.codes[t]? = some (i :: rest) := hcode ▸ codes_getElem? hth
    have hrest := h.codes ht
    refine ⟨fun {u j behind} hu => ?_, fun task htask => ?_⟩
    · rcases hf.codes_after ht hu with ⟨rfl, hcode'⟩ | hold | ⟨-, hspawn⟩
      · -- what is left in front may begin with a notification, and what was behind has none
        cases next with
        | nil =>
          rw [List.nil_append] at hcode'
          rw [← hcode'] at hrest
          exact fun hj => hrest (List.mem_cons_of_mem _ hj)
        | cons k more =>
          obtain ⟨rfl, rfl⟩ := List.cons.inj hcode'
          have hmore : .wakeLoop ∉ more := by
            rcases hf.notifies with ⟨-, -, -, hnone⟩ | ⟨-, more', he, hmore⟩
            · exact fun hj => hnone (List.mem_cons_of_mem _ hj)
            · cases he
              exact hmore
          simp [hmore, hrest]
      · exact h.codes hold
      · exact fun hj => hspawn.not_wakeLoop (List.mem_cons_of_mem _ hj)
    · rcases hf.queue_after htask with hold | ⟨-, hp⟩
      · exact h.queue task hold
      · exact hp.not_wakeLoop
  | @takes t th token rest task queue hth hcode _ _ hq =>
    have ht : m.codes[t]? = some (.pump token :: rest) := hcode ▸ codes_getElem? hth
    refine ⟨fun {u j behind} hu => ?_, fun task' htask => h.queue task' (hq ▸ List.mem_cons_of_mem _ htask)⟩
    by_cases htu : t = u
    · subst htu
      rw [codes_goto_self (m := m.taken t task queue) ht] at hu
      have hnone := h.taken ht hq
      rw [Option.some.inj hu] at hnone
      exact fun hj => hnone (List.mem_cons_of_mem _ hj)
    · rw [codes_goto_other htu] at hu
      exact h.codes hu
  | @panics t th rest hth hcode _ =>
    have ht : m.codes[t]? = some (.op .panic :: rest) := hcode ▸ codes_getElem? hth
    refine ⟨fun {u j behind} hu => ?_, fun task htask => h.queue task (by rwa [loop_panic] at htask)⟩
    rw [codes_panic] at hu
    by_cases htu : t = u
    · subst htu
      rw [List.getElem?_set_self (List.getElem?_eq_some_iff.1 ht).1] at hu
      have hnone := h.caught ht
      rw [Option.some.inj hu] at hnone
      exact fun hj => hnone (List.mem_cons_of_mem _ hj)
    · rw [List.getElem?_set_ne htu] at hu
      exact h.codes hu
  | rouse =>
    refine ⟨fun {u j behind} hu => ?_, h.queue⟩
    rw [codes_rouse] at hu
    exact h.codes hu
  | pass => exact ⟨h.codes, h.queue⟩

/-- On a fresh machine nobody is about to notify. -/
lemma Fresh.notifiesFirst {m : Machine} (hm : m.Fresh) : m.NotifiesFirst where
  codes ht hj := by
    obtain ⟨o, ho⟩ := hm.agenda (mem_agenda_of_code ht (List.mem_cons_of_mem _ hj))
    cases ho
  queue task htask hj := by
    obtain ⟨body, rfl⟩ := hm.queue task htask
    simp at hj

/-- In a run, notifications come first in the code of their threads. -/
lemma play_notifiesFirst {m : Machine} (h : m.NotifiesFirst) (moves : List Move) :
    (m.play moves).NotifiesFirst :=
  play_induction h (fun _ mv h => step_notifiesFirst mv h) moves

/-- A move in which a thread updates the loop; `code` is what it has before it afterwards. -/
def UpdatesLoop (t : ThreadId) (code : List Instr) (m : Machine) (mv : Move) : Prop :=
  mv = .exec t ∧ (∃ i rest, m.codes[t]? = some (i :: rest) ∧ i.Updates) ∧ (m.step mv).codes[t]? = some code

/-- A notification is next because of an update just now, or it was next before. -/
lemma step_updated {m : Machine} (h : m.NotifiesFirst) {mv : Move} {t : ThreadId} {rest}
    (ht : (m.step mv).codes[t]? = some (.wakeLoop :: rest)) :
    UpdatesLoop t (.wakeLoop :: rest) m mv ∨ m.codes[t]? = some (.wakeLoop :: rest) := by
  have hs := steps m mv
  generalize hm' : m.step mv = m' at hs ht
  cases hs with
  | stuck _ => exact .inr ht
  | @fires v th i behind next sent m₁ hth hcode _ hf =>
    have hv : m.codes[v]? = some (i :: behind) := hcode ▸ codes_getElem? hth
    rcases hf.codes_after hv ht with ⟨rfl, hcode'⟩ | hold | ⟨-, hspawn⟩
    · cases next with
      | nil =>
        rw [List.nil_append] at hcode'
        exact absurd (hcode' ▸ List.mem_cons_self ..) (h.codes hv)
      | cons k more =>
        obtain ⟨rfl, -⟩ := List.cons.inj hcode'
        rcases hf.notifies with ⟨-, -, -, hnone⟩ | ⟨hi, -⟩
        · exact absurd (List.mem_cons_self ..) hnone
        · exact .inl ⟨rfl, ⟨i, behind, hv, hi⟩, hm' ▸ ht⟩
    · exact .inr hold
    · exact absurd (List.mem_cons_self ..) hspawn.not_wakeLoop
  | @takes v th token behind task queue hth hcode _ _ hq =>
    have hv : m.codes[v]? = some (.pump token :: behind) := hcode ▸ codes_getElem? hth
    by_cases hvt : v = t
    · subst hvt
      rw [codes_goto_self (m := m.taken v task queue) hv] at ht
      exact absurd (Option.some.inj ht ▸ List.mem_cons_self ..) (h.taken hv hq)
    · rw [codes_goto_other hvt] at ht
      exact .inr ht
  | @panics v th behind hth hcode _ =>
    have hv : m.codes[v]? = some (.op .panic :: behind) := hcode ▸ codes_getElem? hth
    rw [codes_panic] at ht
    by_cases hvt : v = t
    · subst hvt
      rw [List.getElem?_set_self (List.getElem?_eq_some_iff.1 hv).1] at ht
      exact absurd (Option.some.inj ht ▸ List.mem_cons_self ..) (h.caught hv)
    · rw [List.getElem?_set_ne hvt] at ht
      exact .inr ht
  | rouse =>
    rw [codes_rouse] at ht
    exact .inr ht
  | pass => exact .inr ht

/-- Who is about to notify has updated the loop, and has not moved since. -/
lemma play_updated {m : Machine} (hm : m.Fresh) (moves : List Move) {t : ThreadId} {rest}
    (ht : (m.play moves).codes[t]? = some (.wakeLoop :: rest)) :
    Happens m moves (UpdatesLoop t (.wakeLoop :: rest)) := by
  induction moves using List.reverseRecOn with
  | nil =>
    obtain ⟨o, ho⟩ := hm.agenda (mem_agenda_of_code ht (List.mem_cons_self ..))
    cases ho
  | append_singleton moves mv ih =>
    rw [happens_concat]
    rw [play_concat] at ht
    rcases step_updated (play_notifiesFirst hm.notifiesFirst moves) ht with hnew | hold
    · exact .inr hnew
    · exact .inl (ih hold)

/-! ### What a notification does -/

/-- A thread that is about to notify is awake. -/
lemma Alert.awake {m : Machine} (h : m.Alert) {t : ThreadId} {th rest} (ht : m.threads[t]? = some th)
    (hcode : th.code = .wakeLoop :: rest) : th.asleep = false := by
  by_contra hs
  have hrests := h ht (by simpa using hs)
  rw [hcode] at hrests
  cases hrests

/-- After a notification nobody sleeps in a run. -/
lemma step_notified {m : Machine} (h : m.Alert) {v t : ThreadId} {rest th token below}
    (hv : m.codes[v]? = some (.wakeLoop :: rest)) (ht : (m.step (.exec v)).threads[t]? = some th)
    (hcode : th.code = .pump token :: below) : th.asleep = false := by
  obtain ⟨thv, hthv, hcodev⟩ := Option.map_eq_some_iff.1 (List.getElem?_map .. ▸ hv)
  have hawake := h.awake hthv hcodev
  rw [step_awake hthv hcodev hawake] at ht
  simp only [execInstr, Option.getD_some, goto, wake, List.getElem?_modify, List.getElem?_map] at ht
  obtain ⟨th₁, hth₁, rfl⟩ := Option.map_eq_some_iff.1 ht
  obtain ⟨old, hold, rfl⟩ := Option.map_eq_some_iff.1 hth₁
  by_cases hvt : v = t
  · subst hvt
    rw [hthv] at hold
    cases hold
    simp [hawake]
  · rw [if_neg hvt] at hcode ⊢
    split
    · rfl
    · next hn =>
      rw [if_neg hn] at hcode
      simpa [hcode] using hn

/-- A move that adds to the queue, signals a token or closes the loop leaves its thread with a notification
before it. -/
lemma step_changed {m : Machine} (mv : Move)
    (h : m.loop.queue.length < (m.step mv).loop.queue.length ∨
      (m.step mv).loop.signalled ≠ m.loop.signalled ∨ (m.step mv).loop.closed ≠ m.loop.closed) :
    ∃ t rest, mv = .exec t ∧ (m.step mv).codes[t]? = some (.wakeLoop :: rest) := by
  have hs := steps m mv
  generalize m.step mv = m' at hs h
  have unchanged : m'.loop.queue.length ≤ m.loop.queue.length → m'.loop.signalled = m.loop.signalled →
      m'.loop.closed = m.loop.closed → False := by
    intro hq hs hc
    rcases h with hlt | hne | hne
    · omega
    · exact hne hs
    · exact hne hc
  cases hs with
  | stuck _ => exact (unchanged (Nat.le_refl _) rfl rfl).elim
  | @fires t th i rest next sent m₁ hth hcode _ hf =>
    have ht : m.codes[t]? = some (i :: rest) := hcode ▸ codes_getElem? hth
    rcases hf.notifies with ⟨hq, hs, hc, -⟩ | ⟨-, more, rfl, -⟩
    · exact (unchanged (Nat.le_of_eq (congrArg List.length hq)) hs hc).elim
    · exact ⟨t, more ++ rest, rfl, codes_goto_self (hf.code ht) _⟩
  | takes _ _ _ _ hq =>
    refine (unchanged ?_ rfl rfl).elim
    rw [hq]
    exact Nat.le_succ _
  | panics =>
    rw [loop_panic] at unchanged
    exact (unchanged (Nat.le_refl _) rfl rfl).elim
  | rouse => exact (unchanged (Nat.le_refl _) rfl rfl).elim
  | pass => exact (unchanged (Nat.le_refl _) rfl rfl).elim

/-! ### No wake-up is missed -/

/-- Whatever threads post, signal and close, and whoever wakes up by itself: if a thread sleeps in a run, the
queue is empty and the token of the run is not signalled, or some thread has updated the loop and has its
notification still before it. Every move that adds to the queue, signals a token or closes the loop leaves its
thread with a notification before it, and after a notification nobody sleeps in a run. -/
theorem no_missed_wakeUp {m : Machine} (hm : m.Fresh) (moves : List Move) :
    (∀ (t : ThreadId) th token rest, (m.play moves).threads[t]? = some th → th.asleep = true →
      th.code = .pump token :: rest →
      ((m.play moves).loop.queue = [] ∧ token ∉ (m.play moves).loop.signalled) ∨
      ∃ (v : ThreadId) (more : List Instr), (m.play moves).codes[v]? = some (.wakeLoop :: more) ∧
        Happens m moves (UpdatesLoop v (.wakeLoop :: more))) ∧
    (∀ mv, (m.play moves).loop.queue.length < (m.play (moves ++ [mv])).loop.queue.length ∨
        (m.play (moves ++ [mv])).loop.signalled ≠ (m.play moves).loop.signalled ∨
        (m.play (moves ++ [mv])).loop.closed ≠ (m.play moves).loop.closed →
      ∃ t rest, mv = .exec t ∧ (m.play (moves ++ [mv])).codes[t]? = some (.wakeLoop :: rest)) ∧
    (∀ (v : ThreadId) more, (m.play moves).codes[v]? = some (.wakeLoop :: more) →
      ∀ (t : ThreadId) th token rest, (m.play (moves ++ [.exec v])).threads[t]? = some th →
        th.code = .pump token :: rest → th.asleep = false) := by
  have halert : (m.play moves).Alert := by
    refine play_induction (P := fun m => m.Alert) ?_ (fun _ mv h => step_alert mv h) moves
    intro t th ht hs
    rw [hm.awake th (List.mem_of_getElem? ht)] at hs
    cases hs
  refine ⟨fun t th token rest ht hs hcode => ?_, fun mv h => ?_, fun v more hv t th token rest ht hcode => ?_⟩
  · have hrests := halert ht hs
    rw [hcode] at hrests
    cases hrests with
    | loop h =>
      apply h.imp_right
      rintro ⟨v, more, hv⟩
      exact ⟨v, more, hv, play_updated hm moves hv⟩
  · rw [play_concat] at h ⊢
    exact step_changed mv h
  · rw [play_concat] at ht
    exact step_notified halert hv ht hcode

/-- One thread runs the loop, another one posts to it and then ends the run. -/
def latePoster : Machine := start [[.run .ui false], [.post [.say "late"], .signal .ui]] [] .manual

/-- The loop sleeps over a task that was posted just now, and the notification that wakes it comes next. -/
theorem no_missed_wakeUp_latePoster :
    (latePoster.play (List.replicate 2 (.exec 0) ++ [.exec 1])).loop.queue = [load [.say "late"]] ∧
      ∃ (v : ThreadId) (more : List Instr),
        (latePoster.play (List.replicate 2 (.exec 0) ++ [.exec 1])).codes[v]? = some (.wakeLoop :: more) := by
  have hqueue : (latePoster.play (List.replicate 2 (.exec 0) ++ [.exec 1])).loop.queue =
      [load [.say "late"]] := rfl
  obtain ⟨hsleep, -, -⟩ := no_missed_wakeUp (m := latePoster) (start_fresh ..)
    (List.replicate 2 (.exec 0) ++ [.exec 1])
  rcases hsleep 0 ⟨"", [.pump .ui, .returned .ui false], true, false⟩ .ui _ rfl rfl rfl with
    ⟨hempty, -⟩ | ⟨v, more, hv, -⟩
  · rw [hqueue] at hempty
    cases hempty
  · exact ⟨hqueue, v, more, hv⟩

end MessageBox.Machine
