import MessageBox.Proofs.Machine.Frames

/-!
# Sleeping threads

A thread sleeps in a live run of the loop or in the wait of a call, and only while there is nothing for it:
once the token of its run is signalled, or there is a permit for its call, somebody is about to notify it
(`Watched`, `step_watched`).
-/

namespace MessageBox.Machine

/-- Whether executing the first instruction wakes a thread that sleeps in the second. -/
def Instr.wakes : Instr → Instr → Bool
  | .wakeLoop, .pump _ => true
  | .wakeCall c, .await c' _ => c == c'
  | _, _ => false

/-- A look that lets a call sleep has seen no permit. -/
lemma check_sleep {h : Handoff Nat} {deadline now remaining}
    (hl : Handoff.wait.check deadline now h = .sleep remaining) : h.permits = 0 := by
  unfold Wait.check at hl
  split at hl
  · cases hl
  · split at hl
    · cases hl
    · next hr => simpa [Handoff.wait] using hr

/-- A thread falls asleep in a run that is not to end, or in the wait of a call without a permit. -/
inductive Dozes (m : Machine) : Instr → Prop where
  | loop {token} :
    token ∉ m.loop.signalled →
    Dozes m (.pump token)
  | call {c : CallId} {deadline} {call : Call} :
    m.calls[c]? = some call →
    call.handoff.permits = 0 →
    Dozes m (.await c deadline)

/-- What a firing does to sleeping threads: it leaves them alone, wakes some, puts its own thread to sleep, or
adds a thread that is awake. -/
lemma Fires.threads {m m₁ : Machine} {t i next sent} (h : Fires m t i next sent m₁) :
    (m₁.threads = m.threads ∧ ∀ j, i.wakes j = false) ∨
    (∃ p, m₁.threads = (m.wake p).threads ∧ ∀ j, i.wakes j = true → p j = true) ∨
    (m₁ = m.sleep t ∧ next = [i] ∧ Dozes m i) ∨
    ∃ code, m₁.threads = m.threads ++ [⟨"", code, false, false⟩] ∧ ∀ j, i.wakes j = false := by
  cases h with
  | wakeLoop =>
    refine .inr (.inl ⟨_, rfl, fun j hj => ?_⟩)
    cases j <;> simp_all [Instr.wakes]
  | wakeCall =>
    refine .inr (.inl ⟨_, rfl, fun j hj => ?_⟩)
    cases j <;> simp_all [Instr.wakes]
  | doze hs _ => exact .inr (.inr (.inl ⟨rfl, rfl, .loop hs⟩))
  | awaitSleep hc hl => exact .inr (.inr (.inl ⟨rfl, rfl, .call hc (check_sleep hl)⟩))
  | fork => exact .inr (.inr (.inr ⟨_, rfl, fun _ => rfl⟩))
  | later => exact .inr (.inr (.inr ⟨_, rfl, fun _ => rfl⟩))
  | @noCall i c hi _ => exact .inl ⟨rfl, fun j => by cases i <;> first | rfl | cases hi⟩
  | @noOffer i d hi _ => exact .inl ⟨rfl, fun j => by cases i <;> first | rfl | cases hi⟩
  | _ =>
    exact .inl ⟨by simp [emit, note_eq, tellProgram_eq, enqueue, setActive, modifyCall], fun _ => rfl⟩

/-- A thread that sleeps after a firing has just fallen asleep, or slept before and was not woken. -/
lemma Fires.asleep {m m₁ : Machine} {t v : ThreadId} {i : Instr} {rest next sent : List Instr}
    {th th' : Thread} (hf : Fires m t i next sent m₁) (ht : m.threads[t]? = some th) (hawake : th.asleep = false)
    (hv : (m₁.goto t (next ++ rest)).threads[v]? = some th') (hs : th'.asleep = true) :
    (th'.code = i :: rest ∧ m₁ = m.sleep t ∧ Dozes m i) ∨
      ∃ old, m.threads[v]? = some old ∧ old.asleep = true ∧ th'.code = old.code ∧
        ∀ j rest, old.code = j :: rest → i.wakes j = false := by
  simp only [goto, List.getElem?_modify] at hv
  obtain ⟨th₁, hth₁, rfl⟩ := Option.map_eq_some_iff.1 hv
  have hs₁ : th₁.asleep = true := by
    split at hs
    · exact hs
    · exact hs
  -- whoever slept before is not the thread that moves, so it has kept its code
  have hother : m.threads[v]? = some th₁ → t ≠ v := by
    rintro hold rfl
    rw [ht] at hold
    cases hold
    rw [hawake] at hs₁
    cases hs₁
  have slept : m.threads[v]? = some th₁ → (∀ j rest, th₁.code = j :: rest → i.wakes j = false) →
      ∃ old, m.threads[v]? = some old ∧ old.asleep = true ∧
        (if t = v then { th₁ with code := next ++ rest } else th₁).code = old.code ∧
        ∀ j rest, old.code = j :: rest → i.wakes j = false :=
    fun hold hn => ⟨th₁, hold, hs₁, by rw [if_neg (hother hold)], hn⟩
  obtain ⟨he, hn⟩ | ⟨p, he, hp⟩ | ⟨rfl, rfl, hd⟩ | ⟨code, he, hn⟩ := hf.threads
  · exact .inr (slept (he ▸ hth₁) fun j _ _ => hn j)
  · rw [he, Machine.wake, List.getElem?_map] at hth₁
    obtain ⟨old, hold, hwoken⟩ := Option.map_eq_some_iff.1 hth₁
    split at hwoken
    · subst hwoken
      cases hs₁
    · next hstays =>
      subst hwoken
      refine .inr (slept hold fun j rest hcode => ?_)
      simp only [hs₁, hcode, List.head?_cons, Option.any_some, Bool.true_and, Bool.not_eq_true] at hstays
      cases hw : i.wakes j with
      | false => rfl
      | true =>
        rw [hp j hw] at hstays
        cases hstays
  · by_cases htv : t = v
    · subst htv
      exact .inl ⟨by simp, rfl, hd⟩
    · refine .inr (slept ?_ ?_)
      · simpa [Machine.sleep, htv] using hth₁
      · cases hd <;> exact fun _ _ _ => rfl
  · rw [he] at hth₁
    rcases getElem?_concat hth₁ with hold | ⟨-, rfl⟩
    · exact .inr (slept hold fun j _ _ => hn j)
    · cases hs₁

/-- Somebody is about to wake the thread that sleeps in this code, if there is something for it. -/
inductive Watch (m : Machine) : List Instr → Prop where
  | loop {token rest} :
    (token ∈ m.loop.signalled → .wakeLoop ∈ m.agenda) →
    Watch m (.pump token :: rest)
  | call {c : CallId} {deadline rest} :
    (∀ {call : Call}, m.calls[c]? = some call → 0 < call.handoff.permits → .wakeCall c ∈ m.agenda) →
    Watch m (.await c deadline :: rest)

/-- Nobody sleeps over what it waits for. -/
def Watched (m : Machine) : Prop :=
  ∀ {t : ThreadId} {th : Thread}, m.threads[t]? = some th → th.asleep = true → Watch m th.code

/-- Where a permit of a call comes from: it was there, or an answer has just been recorded, or the call
released. -/
lemma Fires.permit_before {m m₁ : Machine} {t i next sent} {c : CallId} {call : Call}
    (hf : Fires m t i next sent m₁) (hc : m₁.calls[c]? = some call) (hp : 0 < call.handoff.permits) :
    (∃ old, m.calls[c]? = some old ∧ 0 < old.handoff.permits) ∨ .wakeCall c ∈ next ∨ i = .release c := by
  obtain ⟨old, hold, rfl | ⟨f, hch, rfl⟩⟩ | ⟨p, ticket, q, -, -, -, rfl⟩ := hf.call_before hc
  · exact .inl ⟨call, hold, hp⟩
  · cases hch with
    | take _ _ => exact .inl ⟨old, hold, Nat.lt_of_lt_of_le hp (Nat.sub_le ..)⟩
    | complete hc' hnone =>
      cases hf with
      | complete _ _ => exact .inr (.inl (List.mem_singleton_self _))
      | completeAgain hc'' hsome =>
        rw [hc'] at hc''
        cases hc''
        simp [hnone] at hsome
      | noCall hi hn =>
        cases hi
        rw [hold] at hn
        cases hn
      | noOffer hi _ => cases hi
    | release => exact .inr (.inr rfl)
    | interrupt _ => exact .inl ⟨old, hold, hp⟩
    | interruptOnShow _ _ _ _ _ _ => exact .inl ⟨old, hold, hp⟩
    | clear _ _ => exact .inl ⟨old, hold, hp⟩
    | resolve _ => exact .inl ⟨old, hold, hp⟩
  · exact absurd hp (Nat.lt_irrefl 0)

/-- A firing leaves nobody asleep over what it waits for. -/
lemma Fires.watch {m m₁ : Machine} {t i rest next sent code} (hf : Fires m t i next sent m₁)
    (ht : m.codes[t]? = some (i :: rest)) (hrelease : ∀ c, i ≠ .release c) (h : Watch m code)
    (hasleep : ∀ j rest, code = j :: rest → i.wakes j = false) : Watch (m₁.goto t (next ++ rest)) code := by
  cases h with
  | @loop token _ hw =>
    refine .loop fun hs => ?_
    have hs : token ∈ m₁.loop.signalled := hs
    have old : token ∈ m.loop.signalled → .wakeLoop ∈ (m₁.goto t (next ++ rest)).agenda := by
      intro hs
      rcases hf.agenda_of_mem ht (hw hs) with hmem | rfl
      · exact hmem
      · cases hasleep _ _ rfl
    obtain he | ⟨token', rfl, he⟩ := hf.signals
    · exact old (he ▸ hs)
    · have hnext : .wakeLoop ∈ next := by
        cases hf with
        | signal => exact List.mem_singleton_self _
        | post ho _ => cases ho
        | postClosed ho _ => cases ho
        | noCall hi _ => cases hi
        | noOffer hi _ => cases hi
      exact hf.agenda_of_new ht (.inl hnext)
  | @call c deadline _ hw =>
    refine .call fun hc hp => ?_
    rcases hf.permit_before hc hp with ⟨old, hold, hp⟩ | hnext | hi
    · rcases hf.agenda_of_mem ht (hw hold hp) with hmem | rfl
      · exact hmem
      · have hwakes := hasleep _ _ rfl
        simp [Instr.wakes] at hwakes
    · exact hf.agenda_of_new ht (.inl hnext)
    · exact absurd hi (hrelease c)

/-- Where nothing but instructions move, the watch over sleepers stays. -/
lemma Watch.mono {m m' : Machine} {code} (h : Watch m code)
    (hsignalled : m'.loop.signalled = m.loop.signalled) (hcalls : m'.calls = m.calls)
    (hagenda : ∀ i ∈ m.agenda, i ∈ m'.agenda) : Watch m' code := by
  cases h with
  | loop hw => exact .loop fun hs => hagenda _ (hw (hsignalled ▸ hs))
  | call hw => exact .call fun hc hp => hagenda _ (hw (hcalls ▸ hc) hp)

/-- Every move of a staffed machine leaves nobody asleep over what it waits for. -/
lemma step_watched {m : Machine} {u r} (mv : Move) (hm : m.Staffed u r) (h : m.Watched) :
    (m.step mv).Watched := by
  intro v th' hv hs
  have hsteps := steps m mv
  generalize m.step mv = m' at hsteps hv
  cases hsteps with
  | stuck _ => exact h hv hs
  | @fires t th i rest next sent m₁ ht hcode hawake hf =>
    have hcodes := hcode ▸ codes_getElem? ht
    have hrelease : ∀ c, i ≠ .release c := by
      rintro c rfl
      obtain ⟨front, hfront⟩ := hm.front hcodes rfl
      cases hfront
    rcases hf.asleep ht hawake hv hs with ⟨hc, rfl, hd⟩ | ⟨old, hold, hasleep, hc, hw⟩
    · rw [hc]
      cases hd with
      | loop hn => exact .loop fun hs => absurd hs hn
      | call hcall hzero =>
        refine .call fun hcall' hp => ?_
        have hcall' : m.calls[_]? = some _ := hcall'
        rw [hcall] at hcall'
        cases hcall'
        omega
    · rw [hc]
      exact hf.watch hcodes hrelease (h hold hasleep) hw
  | @takes t th token rest task queue ht hcode hawake _ hq =>
    have hperm := agenda_takes (hcode ▸ codes_getElem? ht) hq
    have hvt : t ≠ v := by
      rintro rfl
      have hth : th'.asleep = th.asleep := by simp [goto, taken, emit, ht] at hv; rw [← hv]
      rw [hth, hawake] at hs
      cases hs
    have hold : m.threads[v]? = some th' := by simpa [goto, taken, emit, hvt] using hv
    exact (h hold hs).mono rfl rfl fun i hi => hperm.symm.subset hi
  | panics ht hcode _ => exact absurd (hcode ▸ codes_getElem? ht) hm.calm
  | @rouse t =>
    have hagenda : (m.rouse t).agenda = m.agenda := by
      simp only [agenda, codes_rouse]
      rfl
    have hold : m.threads[v]? = some th' := by
      simp only [rouse, List.getElem?_modify] at hv
      obtain ⟨old, hold, rfl⟩ := Option.map_eq_some_iff.1 hv
      split at hs
      · cases hs
      · next htv => rw [hold, if_neg htv]
    exact (h hold hs).mono rfl rfl fun i hi => hagenda ▸ hi
  | pass => exact (h hv hs).mono rfl rfl fun i hi => hi

end MessageBox.Machine
