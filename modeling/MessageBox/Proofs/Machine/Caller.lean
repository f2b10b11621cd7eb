import MessageBox.Proofs.Machine.Sound

/-!
# The caller of a call

Off the UI thread, the thread that makes a call schedules its dialog, waits for the handoff, reads it, and
returns. It is in one place of this at a time (`Single`), and an answer recorded while it waits comes with a
permit that nobody else takes (`Kept`).
-/

namespace MessageBox.Machine

/-- Whether an instruction is a step of the thread that makes a call off the UI thread. -/
def Instr.pursues (c : CallId) : Instr → Bool
  | .schedule c' | .beginWait c' | .await c' _ | .collect c' | .deactivate c' _ | .resolve c' _ => c' == c
  | _ => false

/-- Whether an instruction is a step before the end of the wait for a call's handoff. -/
def Instr.waits (c : CallId) : Instr → Bool
  | .schedule c' | .beginWait c' | .await c' _ => c' == c
  | _ => false

/-- A step before the end of the wait is a step of the thread that makes the call. -/
lemma Instr.pursues_of_waits {i : Instr} {c : CallId} (h : i.waits c = true) : i.pursues c = true := by
  cases i <;> simp_all [Instr.waits, Instr.pursues]

/-- The outcome a call has returned with. -/
def returned? (m : Machine) (c : CallId) : Option Outcome := m.calls[c]?.bind (·.outcome)

/-- Calls off the UI thread are in one place at a time. -/
def Single (m : Machine) : Prop :=
  ∀ c, m.In .worker c → m.agenda.countP (Instr.pursues c) + (if (m.returned? c).isSome then 1 else 0) ≤ 1

/-- A call is made in one context. -/
lemma In.unique {m : Machine} {c : CallId} {x y : Context} (h : m.In x c) (h' : m.In y c) : x = y := by
  obtain ⟨call, hc, rfl⟩ := h
  exact h'.context_eq hc

/-- A call of a context had it before, or starts just now. -/
lemma Fires.in_before {m m₁ : Machine} {t i next sent} {c : CallId} {x : Context}
    (h : Fires m t i next sent m₁) (hc : m₁.In x c) : m.In x c ∨ c = m.calls.length := by
  obtain ⟨call, hcall, hx⟩ := hc
  obtain ⟨old, hold, hcont⟩ | ⟨p, ticket, q, -, -, hlen, -⟩ := h.call_before hcall
  · refine .inl ⟨old, hold, ?_⟩
    rcases hcont with rfl | ⟨f, hch, rfl⟩
    · exact hx
    · rw [← hx, (hch.continues hold).context]
  · exact .inr hlen

/-- A dialog that a call has offered before its nested run belongs to a call on the UI thread. -/
lemma Sound.in_nested {m : Machine} (hm : m.Sound) {d : DialogId} {o : Offer} {c : CallId}
    (ho : m.dialogs[d]? = some o) (hc : o.origin = .nested c) : m.In .uiThread c := by
  obtain ⟨call, hcall, rfl⟩ := (hm.offers ho).of_call (by rw [hc]; rfl)
  rcases call.offer_origin c with ⟨hx, -⟩ | ⟨-, he⟩
  · exact ⟨call, hcall, hx⟩
  · rw [he] at hc
    cases hc

/-- A dialog that a task has offered belongs to a call off the UI thread. -/
lemma Sound.in_posted {m : Machine} (hm : m.Sound) {d : DialogId} {o : Offer} {c : CallId}
    (ho : m.dialogs[d]? = some o) (hc : o.origin = .posted c) : m.In .worker c := by
  obtain ⟨call, hcall, rfl⟩ := (hm.offers ho).of_call (by rw [hc]; rfl)
  rcases call.offer_origin c with ⟨-, he⟩ | ⟨hx, -⟩
  · rw [he] at hc
    cases hc
  · exact ⟨call, hcall, hx⟩

/-- The dialog of a call off the UI thread was offered by a task. -/
lemma Sound.posted_of_worker {m : Machine} (hm : m.Sound) {d : DialogId} {o : Offer} {c : CallId}
    (ho : m.dialogs[d]? = some o) (hd : m.caller? d = some c) (hc : m.In .worker c) :
    o.origin = .posted c := by
  have hcall : o.origin.call? = some c := by simpa [Machine.caller?, ho] using hd
  cases horigin : o.origin with
  | program => simp [horigin, Origin.call?] at hcall
  | nested c' =>
    obtain rfl : c' = c := by simpa [horigin, Origin.call?] using hcall
    cases (hm.in_nested ho horigin).unique hc
  | posted c' =>
    obtain rfl : c' = c := by simpa [horigin, Origin.call?] using hcall
    rfl

/-- The dialog of a call on the UI thread is offered before its nested run. -/
lemma Sound.nested_of_ui {m : Machine} (hm : m.Sound) {d : DialogId} {o : Offer} {c : CallId}
    (ho : m.dialogs[d]? = some o) (hd : m.caller? d = some c) (hc : m.In .uiThread c) :
    o.origin = .nested c := by
  have hcall : o.origin.call? = some c := by simpa [Machine.caller?, ho] using hd
  cases horigin : o.origin with
  | program => simp [horigin, Origin.call?] at hcall
  | nested c' =>
    obtain rfl : c' = c := by simpa [horigin, Origin.call?] using hcall
    rfl
  | posted c' =>
    obtain rfl : c' = c := by simpa [horigin, Origin.call?] using hcall
    cases (hm.in_posted ho horigin).unique hc

/-- A call off the UI thread goes on from one step of its thread to the next. -/
lemma Leads.pursues {m : Machine} {t i j} {c : CallId} (h : Leads m t i j) (hm : m.Sound) (hi : i.Sound m)
    (hc : ¬ m.In .uiThread c) (hj : j.pursues c = true) :
    i.pursues c = true ∨ c = m.calls.length ∧ ∃ p ticket, i = .op (.ask p ticket) := by
  cases j with
  | schedule c' =>
    obtain rfl : c' = c := by simpa [Instr.pursues] using hj
    cases h with
    | askOff _ _ => exact .inr ⟨rfl, _, _, rfl⟩
    | _ => simp_all
  | beginWait c' =>
    obtain rfl : c' = c := by simpa [Instr.pursues] using hj
    cases h with
    | beginWait => exact .inl hj
    | _ => simp_all
  | await c' deadline =>
    obtain rfl : c' = c := by simpa [Instr.pursues] using hj
    cases h with
    | await _ => exact .inl hj
    | awaitSleep _ _ => exact .inl hj
    | _ => simp_all
  | collect c' =>
    obtain rfl : c' = c := by simpa [Instr.pursues] using hj
    cases h with
    | swallowed _ _ _ => exact .inl hj
    | nestCollect => exact absurd hi hc
    | _ => simp_all
  | deactivate c' o =>
    obtain rfl : c' = c := by simpa [Instr.pursues] using hj
    cases h with
    | closed _ => exact .inl hj
    | ready _ _ => exact .inl hj
    | interrupted _ _ _ => exact .inl hj
    | timedOut _ _ => exact .inl hj
    | collected _ => exact .inl hj
    | refused _ ho _ hr =>
      obtain ⟨horigin, -⟩ : _ ∧ o = .noAction := by simpa using hr
      exact absurd (hm.in_nested ho horigin) hc
    | _ => simp_all
  | resolve c' o =>
    obtain rfl : c' = c := by simpa [Instr.pursues] using hj
    cases h with
    | resolve => exact .inl hj
    | _ => simp_all
  | _ => cases hj

/-- A call returns by its last step, and once it has returned nothing changes that. -/
lemma Fires.returned? {m m₁ : Machine} {t i next sent} (h : Fires m t i next sent m₁) (c : CallId) :
    m₁.returned? c = m.returned? c ∨
      ∃ o, i = .resolve c o ∧ next = [] ∧ sent = [] ∧ m₁.returned? c = some o := by
  cases hc : m₁.calls[c]? with
  | none =>
    left
    have hnone : m.calls[c]? = none := by
      have hle := h.grows.calls_length
      rw [List.getElem?_eq_none_iff] at hc ⊢
      omega
    simp [Machine.returned?, hc, hnone]
  | some call =>
    obtain ⟨old, hold, rfl | ⟨f, hch, rfl⟩⟩ | ⟨p, ticket, q, -, -, hlen, rfl⟩ := h.call_before hc
    · left
      simp [Machine.returned?, hc, hold]
    · cases hch with
      | resolve hc' =>
        right
        cases h with
        | resolve _ => exact ⟨_, rfl, rfl, rfl, by simp [Machine.returned?, hc]⟩
        | noCall hi hn =>
          cases hi
          rw [hold] at hn
          cases hn
        | noOffer hi _ => cases hi
      | _ =>
        left
        simp [Machine.returned?, hc, hold]
    · left
      have hnone : m.calls[c]? = none := by simp [hlen]
      simp [Machine.returned?, hc, hnone, newCall]

/-- A step of a call's thread leaves at most one more to do. -/
lemma Fires.pursues_one {m m₁ : Machine} {t i next sent} {c : CallId} (h : Fires m t i next sent m₁)
    (hi : i.pursues c = true) : next.countP (Instr.pursues c) + sent.countP (Instr.pursues c) ≤ 1 := by
  cases h with
  | awaitInterrupted _ _ =>
    obtain rfl := by simpa [Instr.pursues] using hi
    split <;> simp [Instr.pursues]
  | @noCall i => simp
  | @noOffer i => simp
  | _ => simp_all [Instr.pursues]

/-- The balance of a call's steps over a firing. -/
lemma Fires.pursues {m m₁ : Machine} {t i next sent} {c : CallId} (h : Fires m t i next sent m₁)
    (hm : m.Sound) (hi : i.Sound m) (hc : ¬ m.In .uiThread c) :
    next.countP (Instr.pursues c) + sent.countP (Instr.pursues c) +
        (if (m₁.returned? c).isSome then 1 else 0) ≤
      [i].countP (Instr.pursues c) + (if (m.returned? c).isSome then 1 else 0) +
        if c = m.calls.length then 1 else 0 := by
  obtain hr | ⟨o, rfl, rfl, rfl, hr⟩ := h.returned? c
  · rw [hr]
    by_cases hex : ∃ j, (j ∈ next ∨ j ∈ sent) ∧ j.pursues c = true
    · obtain ⟨j, hj, hpursues⟩ := hex
      rcases (h.leads hj).pursues hm hi hc hpursues with hi' | ⟨rfl, p, ticket, rfl⟩
      · have hone := h.pursues_one hi'
        simp only [List.countP_singleton, hi', if_true]
        omega
      · cases h with
        | ask _ =>
          cases hx : (m.newCall t _ _ _).context with
          | uiThread => simp [Instr.pursues, Context.first]
          | worker =>
            simp [Instr.pursues, Context.first]
            omega
        | askUnknown _ => simp at hj
        | _ => simp_all [Op.task?, Instr.call?, Instr.offer?]
    · obtain ⟨hnext, hsent⟩ := countP_eq_zero_of_not hex
      rw [hnext, hsent]
      omega
  · -- the last step of a call makes it return and leaves nothing behind
    rw [hr]
    simp [Instr.pursues]
    omega

/-- Nobody pursues a call that is yet to come. -/
lemma Sound.pursues_new {m : Machine} (hm : m.Sound) :
    m.agenda.countP (Instr.pursues m.calls.length) = 0 := by
  rw [List.countP_eq_zero]
  intro i hi hp
  have hs := hm.agenda i hi
  cases i with
  | schedule c | beginWait c | await c _ =>
    obtain rfl : c = m.calls.length := by simpa [Instr.pursues] using hp
    obtain ⟨call, hc, -⟩ := hs
    simp at hc
  | collect c | deactivate c _ | resolve c _ =>
    obtain rfl : c = m.calls.length := by simpa [Instr.pursues] using hp
    exact absurd hs (Nat.lt_irrefl _)
  | _ => cases hp

/-- Every move keeps a call off the UI thread in one place. -/
lemma step_single {m : Machine} (mv : Move) (hm : m.Sound) (h : m.Single) : (m.step mv).Single := by
  intro c hc
  rcases (steps m mv).fires_or_quiet with ⟨t, i, rest, next, sent, m₁, -, ht, hf, he⟩ | hq
  · have hi : i.Sound m := hm.agenda i (mem_agenda_of_code ht (List.mem_cons_self ..))
    have hoff : ¬ m.In .uiThread c := by
      intro hui
      have hg : m.Grows (m.step mv) := step_grows m mv
      cases (hg.in hui).unique hc
    have hcount := hf.countP ht (Instr.pursues c)
    have hbalance := hf.pursues hm hi hoff
    have hreturned : (m.step mv).returned? c = m₁.returned? c := by rw [he]; rfl
    rw [hreturned, he]
    by_cases hlen : c = m.calls.length
    · -- a call that starts was pursued by nobody and has not returned
      have hnone : m.returned? c = none := by simp [returned?, hlen]
      have hzero : m.agenda.countP (Instr.pursues c) = 0 := hlen ▸ hm.pursues_new
      rw [hnone] at hbalance
      simp only [hlen, if_true, Option.isSome_none, Bool.false_eq_true, if_false] at *
      omega
    · have hold : m.In .worker c := by
        rcases hf.in_before (he ▸ hc) with hold | hnew
        · exact hold
        · exact absurd hnew hlen
      have hone := h c hold
      simp only [hlen, if_false] at hbalance
      omega
  · have hagenda := hq.agenda.countP_le (Instr.pursues c)
    have hreturned : (m.step mv).returned? c = m.returned? c := by simp [returned?, hq.calls]
    have hone := h c (by simpa [In, hq.calls] using hc)
    rw [hreturned]
    omega

/-- The thread of a call off the UI thread is in one place of it. -/
lemma Single.unique {m : Machine} (h : m.Single) {c : CallId} (hc : m.In .worker c) {i j : Instr}
    (hi : i ∈ m.agenda) (hj : j ∈ m.agenda) (hip : i.pursues c = true) (hjp : j.pursues c = true) :
    i = j := by
  obtain ⟨a, ha⟩ := List.mem_iff_getElem?.1 hi
  obtain ⟨b, hb⟩ := List.mem_iff_getElem?.1 hj
  have hle : m.agenda.countP (Instr.pursues c) ≤ 1 := Nat.le_trans (Nat.le_add_right ..) (h c hc)
  have hab := eq_of_countP_le_one hle ha hb hip hjp
  subst hab
  rw [ha] at hb
  cases hb
  rfl

/-- A call that somebody pursues has not returned. -/
lemma Single.not_returned {m : Machine} (h : m.Single) {c : CallId} (hc : m.In .worker c) {i : Instr}
    (hi : i ∈ m.agenda) (hip : i.pursues c = true) : m.returned? c = none := by
  have hpos : 0 < m.agenda.countP (Instr.pursues c) := List.countP_pos_iff.2 ⟨i, hi, hip⟩
  have hone := h c hc
  cases hr : m.returned? c with
  | none => rfl
  | some o =>
    simp only [hr, Option.isSome_some, if_true] at hone
    omega

/-! ### Looks at the handoff -/

/-- A look that finds the call interrupted has seen that an interruption is pending. -/
lemma check_interrupted {h : Handoff Nat} {deadline now}
    (hl : Handoff.wait.check deadline now h = .interrupted) : h.interruptPending = true := by
  unfold Wait.check at hl
  split at hl
  · next hi => exact hi
  · split at hl
    · cases hl
    · split at hl
      · cases hl
      · split at hl <;> cases hl

/-- A look that ends the wait with success has seen a permit. -/
lemma check_ready {h : Handoff Nat} {deadline now} (hl : Handoff.wait.check deadline now h = .ready) :
    0 < h.permits := by
  unfold Wait.check at hl
  split at hl
  · cases hl
  · split at hl
    · next hr => simpa [Handoff.wait] using hr
    · split at hl
      · cases hl
      · split at hl <;> cases hl

/-- A look that gives up has seen no permit, and there is a limit. -/
lemma check_timedOut {h : Handoff Nat} {deadline now} (hl : Handoff.wait.check deadline now h = .timedOut) :
    h.permits = 0 ∧ ∃ time, deadline = some time := by
  unfold Wait.check at hl
  split at hl
  · cases hl
  · split at hl
    · cases hl
    · next hr =>
      have hzero : h.permits = 0 := by simpa [Handoff.wait] using hr
      split at hl
      · cases hl
      · exact ⟨hzero, _, rfl⟩

/-! ### The permit of an answer -/

/-- While a call waits, an answer recorded for it comes with a permit. -/
def Kept (m : Machine) : Prop :=
  ∀ {c : CallId} {call : Call} {i}, m.calls[c]? = some call → i ∈ m.agenda → i.waits c = true →
    call.handoff.value.isSome = true → 0 < call.handoff.permits

/-- Who waits for a call has made it off the UI thread. -/
lemma Instr.Sound.in_worker {m : Machine} {i : Instr} {c : CallId} (hi : i.Sound m) (hw : i.waits c = true) :
    m.In .worker c := by
  cases i with
  | schedule c' | beginWait c' | await c' _ =>
    obtain rfl : c' = c := by simpa [Instr.waits] using hw
    exact hi
  | _ => cases hw

/-- A wait for a call comes from a step before the end of this wait, or from the start of the call. -/
lemma Leads.waits {m : Machine} {t i j} {c : CallId} (h : Leads m t i j) (hj : j.waits c = true) :
    i.waits c = true ∨ c = m.calls.length ∧ j = .schedule c := by
  cases j with
  | schedule c' =>
    obtain rfl : c' = c := by simpa [Instr.waits] using hj
    cases h with
    | askOff _ _ => exact .inr ⟨rfl, rfl⟩
    | _ => simp_all
  | beginWait c' =>
    obtain rfl : c' = c := by simpa [Instr.waits] using hj
    cases h with
    | beginWait => exact .inl hj
    | _ => simp_all
  | await c' deadline =>
    obtain rfl : c' = c := by simpa [Instr.waits] using hj
    cases h with
    | await _ => exact .inl hj
    | awaitSleep _ _ => exact .inl hj
    | _ => simp_all
  | _ => cases hj

/-- What waits for a call after a firing was preceded by something that waited for it, unless the call has
just started. -/
lemma Fires.waits_before {m m₁ : Machine} {t i rest next sent j} {c : CallId} (hf : Fires m t i next sent m₁)
    (ht : m.codes[t]? = some (i :: rest)) (hj : j ∈ (m₁.goto t (next ++ rest)).agenda)
    (hw : j.waits c = true) :
    (∃ k ∈ m.agenda, k.waits c = true) ∨ c = m.calls.length ∧ j = .schedule c := by
  rcases hf.mem_agenda ht hj with hj | hj
  · exact .inl ⟨j, hj, hw⟩
  · rcases (hf.leads hj).waits hw with hi | hc
    · exact .inl ⟨i, mem_agenda_of_code ht (List.mem_cons_self ..), hi⟩
    · exact .inr hc

/-- A look at the handoff that takes the permit decides the outcome. -/
lemma Fires.ready_next {m m₁ : Machine} {t next sent} {c : CallId} {call : Call} {deadline}
    (hf : Fires m t (.await c deadline) next sent m₁) (hc : m.calls[c]? = some call)
    (hready : Handoff.wait.check deadline m.clock call.handoff = .ready) :
    .deactivate c call.recorded ∈ next := by
  cases hf with
  | awaitReady hc' _ =>
    rw [hc] at hc'
    cases hc'
    exact List.mem_singleton_self _
  | awaitInterrupted hc' hl | awaitTimedOut hc' hl | awaitSleep hc' hl =>
    rw [hc] at hc'
    cases hc'
    rw [hready] at hl
    cases hl
  | noCall hi hn =>
    cases hi
    rw [hc] at hn
    cases hn
  | noOffer hi _ => cases hi

/-- A look at the handoff that takes the permit ends the wait. -/
lemma Fires.take_ends {m m₁ : Machine} {t rest next sent j} {c : CallId} {call : Call} {deadline}
    (hf : Fires m t (.await c deadline) next sent m₁)
    (ht : m.codes[t]? = some (.await c deadline :: rest)) (hc : m.calls[c]? = some call)
    (hready : Handoff.wait.check deadline m.clock call.handoff = .ready) (hw : m.In .worker c)
    (hs : (m₁.goto t (next ++ rest)).Single) (hj : j ∈ (m₁.goto t (next ++ rest)).agenda) :
    j.waits c = false := by
  have hnext := hf.ready_next hc hready
  have hmem := hf.agenda_of_new ht (.inl hnext)
  have hworker : (m₁.goto t (next ++ rest)).In .worker c := (hf.grows.trans (grows_goto ..)).in hw
  cases hwaits : j.waits c with
  | false => rfl
  | true =>
    have hp : (Instr.deactivate c call.recorded).pursues c = true := by simp [Instr.pursues]
    obtain rfl := hs.unique hworker hj hmem (Instr.pursues_of_waits hwaits) hp
    cases hwaits

/-- Every move keeps that an answer comes with a permit while its call waits. -/
lemma step_kept {m : Machine} (mv : Move) (hm : m.Sound) (hs : (m.step mv).Single) (h : m.Kept) :
    (m.step mv).Kept := by
  intro c call j hc hj hw hv
  rcases (steps m mv).fires_or_quiet with ⟨t, i, rest, next, sent, m₁, -, ht, hf, he⟩ | hq
  · rw [he] at hc hj hs
    rcases hf.waits_before ht hj hw with ⟨k, hk, hkw⟩ | ⟨rfl, -⟩
    · obtain ⟨old, hold, rfl | ⟨f, hch, rfl⟩⟩ | ⟨p, ticket, q, -, -, -, rfl⟩ := hf.call_before hc
      · exact h hold hk hkw hv
      · have hkept := h hold hk hkw
        cases hch with
        | @take _ deadline call hc' hl =>
          -- whoever takes the permit no longer waits
          have hworker := (hm.agenda k hk).in_worker hkw
          rw [hf.take_ends ht hc' hl hworker hs hj] at hw
          cases hw
        | complete _ hnone =>
          simp only [Handoff.complete]
          split
          · next hsome => exact hkept (by simp [hsome])
          · exact Nat.succ_pos _
        | release => exact Nat.succ_pos _
        | interrupt _ => exact hkept hv
        | interruptOnShow _ _ _ _ _ _ => exact hkept hv
        | clear _ _ => exact hkept hv
        | resolve _ => exact hkept hv
      · cases hv
    · obtain ⟨old, hold, -⟩ | ⟨p, ticket, q, -, -, -, rfl⟩ := hf.call_before hc
      · simp at hold
      · cases hv
  · exact h (hq.calls ▸ hc) (hq.agenda.subset hj) hw hv

/-- In every run of a machine that starts without calls, a call off the UI thread is in one place, and while
it waits an answer comes with a permit. -/
lemma play_single_kept {m : Machine} (hm : m.Sound) (hcalls : m.calls = []) (moves : List Move) :
    (m.play moves).Single ∧ (m.play moves).Kept := by
  have hsingle : m.Single := by
    rintro c ⟨call, hc, -⟩
    simp [hcalls] at hc
  have hkept : m.Kept := by
    intro c call i hc
    simp [hcalls] at hc
  refine (play_induction (P := fun m => m.Sound ∧ m.Single ∧ m.Kept) ⟨hm, hsingle, hkept⟩ ?_ moves).2
  rintro m mv ⟨hm, hs, hk⟩
  have hs' := step_single mv hm hs
  exact ⟨step_sound mv hm, hs', step_kept mv hm hs' hk⟩

end MessageBox.Machine
