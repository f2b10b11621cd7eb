import MessageBox.Proofs.Machine.Caller

/-!
# Choice, interruption and deadline

A call off the UI thread reads its handoff once: when its wait succeeds, or after an interruption that it does
not report. What this read finds is what the call returns (`Settled`). An interruption is returned only if it
reached the call, and a timeout only if nothing was recorded when the wait gave up (`Raced`). The whole is
`outcome_under_races`.
-/

namespace MessageBox.Machine

/-! ### Moments of a run -/

/-- An interruption reaches the handoff of a call. -/
inductive Interrupts (c : CallId) (m : Machine) (mv : Move) : Prop where
  | op {p} :
    m.Executes mv (.op (.interrupt p)) →
    m.reach p = some c →
    Interrupts c m mv
  /-- An override interrupts the prompt that was started last, before it presents a dialog. -/
  | onShow {d o p} :
    m.Executes mv (.present d) →
    m.dialogs[d]? = some o →
    m.terminal = none →
    o.origin ≠ .program →
    m.overrides.interruptOnShow = true →
    m.latest = some p →
    m.reach p = some c →
    Interrupts c m mv

/-- The wait of a call gives up, and nothing is recorded for the call. -/
def GivesUp (c : CallId) (m : Machine) (mv : Move) : Prop :=
  ∃ deadline call, m.Executes mv (.await c deadline) ∧ m.calls[c]? = some call ∧
    Handoff.wait.check deadline m.clock call.handoff = .timedOut ∧ call.handoff.value = none

/-- A call reads its handoff, where `value` is recorded: its wait succeeds, or it looks after an interruption
that it does not report. -/
def Reads (c : CallId) (value : Option Nat) (m : Machine) (mv : Move) : Prop :=
  ∃ call, m.calls[c]? = some call ∧ call.handoff.value = value ∧
    (m.Executes mv (.collect c) ∨ ∃ deadline, m.Executes mv (.await c deadline) ∧
      Handoff.wait.check deadline m.clock call.handoff = .ready)

/-- The loop is closed to the task that creates the dialog of a call. -/
def Unscheduled (c : CallId) (m : Machine) (mv : Move) : Prop :=
  m.Executes mv (.schedule c) ∧ m.loop.closed = true

/-! ### What was read is returned -/

/-- A call that has read its handoff returns `o`, or is about to. -/
structure Settled (m : Machine) (c : CallId) (o : Outcome) : Prop where
  worker : m.In .worker c
  pursues : ∀ i ∈ m.agenda, i.pursues c = true → i = .deactivate c o ∨ i = .resolve c o
  returned : ∀ {o'}, m.returned? c = some o' → o' = o

/-- An instruction leaves a call settled on its outcome. -/
lemma Fires.settled {m m₁ : Machine} {t i rest next sent c o} (hf : Fires m t i next sent m₁)
    (ht : m.codes[t]? = some (i :: rest)) (hm : m.Sound) (h : m.Settled c o) :
    (m₁.goto t (next ++ rest)).Settled c o := by
  have hmem : i ∈ m.agenda := mem_agenda_of_code ht (List.mem_cons_self ..)
  have hg : m.Grows (m₁.goto t (next ++ rest)) := hf.grows.trans (grows_goto ..)
  have hoff : ¬ m.In .uiThread c := fun hui => nomatch hui.unique h.worker
  have hlt : c < m.calls.length := by
    obtain ⟨call, hc, -⟩ := h.worker
    exact (List.getElem?_eq_some_iff.1 hc).1
  constructor
  case worker => exact hg.in h.worker
  case pursues =>
    intro j hj hp
    rcases hf.mem_agenda ht hj with hj | hj
    · exact h.pursues j hj hp
    · -- what pursues the call comes from its own last steps, and these only lead to each other
      have hl := hf.leads hj
      rcases hl.pursues hm (hm.agenda i hmem) hoff hp with hi | ⟨rfl, -⟩
      · rcases h.pursues i hmem hi with rfl | rfl
        · cases hl with
          | resolve => exact .inr rfl
          | wakeLoop | wakeCall | report => cases hp
          | accepted hi _ _ | refused hi _ _ _ | pressed hi _ _ _ => cases hi
        · cases hl with
          | wakeLoop | wakeCall | report => cases hp
          | accepted hi _ _ | refused hi _ _ _ | pressed hi _ _ _ => cases hi
      · exact absurd hlt (Nat.lt_irrefl _)
  case returned =>
    intro o' ho'
    have ho' : m₁.returned? c = some o' := ho'
    obtain he | ⟨o'', rfl, -, -, he⟩ := hf.returned? c
    · exact h.returned (he ▸ ho')
    · rw [he] at ho'
      cases ho'
      rcases h.pursues _ hmem (by simp [Instr.pursues]) with hr | hr
      · cases hr
      · cases hr
        rfl

/-- Every move leaves a call settled on its outcome. -/
lemma step_settled {m : Machine} {c o} (mv : Move) (hm : m.Sound) (h : m.Settled c o) :
    (m.step mv).Settled c o := by
  rcases (steps m mv).fires_or_quiet with ⟨t, i, rest, next, sent, m₁, -, ht, hf, he⟩ | hq
  · rw [he]
    exact hf.settled ht hm h
  · refine ⟨hq.grows.in h.worker, fun i hi hp => h.pursues i (hq.agenda.subset hi) hp, fun ho => ?_⟩
    exact h.returned (by simpa [returned?, hq.calls] using ho)

/-- The outcome that a recorded value stands for in a call. -/
def Call.outcomeOf (call : Call) : Option Nat → Outcome
  | some code => .ofCode code call.spec.actions.length
  | none => .noAction

/-- What is recorded for a call is the outcome that the value in its handoff stands for. -/
lemma Call.recorded_eq (call : Call) : call.recorded = call.outcomeOf call.handoff.value := by
  unfold Call.recorded Call.outcomeOf
  cases call.handoff.value <;> rfl

/-- A read finds what was recorded at any time before it. -/
lemma Recorded.read {m : Machine} {c code} (h : m.Recorded c code) (later : List Move) {mv : Move} {value}
    (hread : Reads c value (m.play later) mv) : value = some code := by
  obtain ⟨call, hc, rfl, -⟩ := hread
  exact ((play_grows m later).recorded h).value_eq hc

/-- A read settles a call. -/
lemma Reads.settles {m : Machine} {mv : Move} {c : CallId} {value} (h : Reads c value m mv)
    (hw : m.In .worker c) (hs : (m.step mv).Single) :
    ∃ call, m.calls[c]? = some call ∧ (m.step mv).Settled c (call.outcomeOf value) := by
  obtain ⟨call, hc, rfl, hread⟩ := h
  refine ⟨call, hc, ?_⟩
  have hw' : (m.step mv).In .worker c := (step_grows m mv).in hw
  have hdeact : .deactivate c (call.outcomeOf call.handoff.value) ∈ (m.step mv).agenda := by
    rw [← call.recorded_eq]
    rcases hread with hread | ⟨deadline, hread, hready⟩
    · obtain ⟨t, rest, next, sent, m₁, ht, hf, he⟩ := hread.fires (by simp [execInstr]) (by simp) (by simp)
      rw [he]
      apply hf.agenda_of_new ht
      cases hf with
      | collect hc' =>
        rw [hc] at hc'
        cases hc'
        exact .inl (List.mem_singleton_self _)
      | noCall hi hn =>
        cases hi
        rw [hc] at hn
        cases hn
      | noOffer hi _ => cases hi
    · obtain ⟨t, rest, next, sent, m₁, ht, hf, he⟩ := hread.fires (by simp [execInstr]) (by simp) (by simp)
      rw [he]
      exact hf.agenda_of_new ht (.inl (hf.ready_next hc hready))
  have hp : (Instr.deactivate c (call.outcomeOf call.handoff.value)).pursues c = true := by
    simp [Instr.pursues]
  refine ⟨hw', fun i hi hip => .inl (hs.unique hw' hi hdeact hip hp), fun ho => ?_⟩
  rw [hs.not_returned hw' hdeact hp] at ho
  cases ho

/-! ### What a verdict rests on -/

/-- What has happened before a call has the verdict `o`. -/
structure Verdict (m : Machine) (moves : List Move) (c : CallId) (o : Outcome) : Prop where
  interrupted : o = .interrupted → (m.play moves).In .worker c ∧
    (∀ {call : Call}, (m.play moves).calls[c]? = some call → call.options.reportInterruption = true) ∧
    Happens m moves (Interrupts c)
  timedOut : o = .timedOut → (m.play moves).In .worker c ∧
    (∀ {call : Call}, (m.play moves).calls[c]? = some call → call.options.waitLimit.isSome = true) ∧
    Happens m moves (GivesUp c)
  noAction : o = .noAction → (m.play moves).In .worker c →
    Happens m moves (Reads c none) ∨ Happens m moves (Unscheduled c)
  action : o.isAction = true → Happens m moves (Reads c (some o.code))

/-- What is known of every call in a run that started from `m`. -/
structure Raced (m : Machine) (moves : List Move) : Prop where
  interrupts : ∀ {c : CallId} {call : Call}, (m.play moves).calls[c]? = some call →
    call.handoff.interruptPending = true → Happens m moves (Interrupts c)
  deadlines : ∀ {c : CallId} {call : Call} {deadline}, (m.play moves).calls[c]? = some call →
    .await c (some deadline) ∈ (m.play moves).agenda → call.options.waitLimit.isSome = true
  verdicts : ∀ {c o}, (.deactivate c o ∈ (m.play moves).agenda ∨ .resolve c o ∈ (m.play moves).agenda ∨
    (m.play moves).returned? c = some o) → Verdict m moves c o
  reads : ∀ {before mv c value}, before ++ [mv] <+: moves → Reads c value (m.play before) mv →
    (m.play moves).In .worker c →
    ∃ call, (m.play moves).calls[c]? = some call ∧ (m.play moves).Settled c (call.outcomeOf value)

/-- What has happened in a run has happened after one more move. -/
lemma Happens.concat {m : Machine} {moves : List Move} {mv : Move} {P : Machine → Move → Prop}
    (h : Happens m moves P) : Happens m (moves ++ [mv]) P := happens_concat.2 (.inl h)

/-- A verdict stands on what has happened before. -/
lemma Verdict.concat {m : Machine} {moves : List Move} {c o} (h : Verdict m moves c o) (mv : Move)
    (hc : c < (m.play moves).calls.length) : Verdict m (moves ++ [mv]) c o := by
  have hg := step_grows (m.play moves) mv
  rw [← play_concat] at hg
  -- the call was there before, with the options it has now
  have hback : ∀ {call : Call}, (m.play (moves ++ [mv])).calls[c]? = some call →
      ∃ old, (m.play moves).calls[c]? = some old ∧ call.options = old.options := by
    intro call hcall
    have hget := List.getElem?_eq_getElem hc
    exact ⟨_, hget, (hg.continues hget hcall).options⟩
  constructor
  · intro ho
    obtain ⟨hw, hr, hh⟩ := h.interrupted ho
    refine ⟨hg.in hw, fun hcall => ?_, hh.concat⟩
    obtain ⟨old, hold, hopt⟩ := hback hcall
    rw [hopt]
    exact hr hold
  · intro ho
    obtain ⟨hw, hr, hh⟩ := h.timedOut ho
    refine ⟨hg.in hw, fun hcall => ?_, hh.concat⟩
    obtain ⟨old, hold, hopt⟩ := hback hcall
    rw [hopt]
    exact hr hold
  · intro ho hw
    exact (h.noAction ho (hg.in_before hc hw)).imp Happens.concat Happens.concat
  · intro ho
    exact (h.action ho).concat

/-- A verdict that comes from a read rests on it. -/
lemma Verdict.of_read {m : Machine} {moves : List Move} {mv : Move} {c : CallId} {call : Call}
    (hm : (m.play moves).Sound) (hc : (m.play moves).calls[c]? = some call)
    (hread : Reads c call.handoff.value (m.play moves) mv) : Verdict m (moves ++ [mv]) c call.recorded := by
  rcases hm.recorded hc with ⟨haction, hv⟩ | ⟨hnone, hv⟩
  · rw [hv] at hread
    constructor
    · intro ho
      rw [ho] at haction
      cases haction
    · intro ho
      rw [ho] at haction
      cases haction
    · intro ho
      rw [ho] at haction
      cases haction
    · exact fun _ => happens_concat.2 (.inr hread)
  · rw [hv] at hread
    rw [hnone]
    exact ⟨nofun, nofun, fun _ _ => .inl (happens_concat.2 (.inr hread)), nofun⟩

/-- A new verdict rests on what has happened. -/
lemma Raced.verdict {m : Machine} {moves : List Move} {mv : Move} {t i c o} (h : Raced m moves)
    (hm : (m.play moves).Sound) (hk : (m.play moves).Kept) (hmem : i ∈ (m.play moves).agenda)
    (hx : (m.play moves).Executes mv i) (hl : Leads (m.play moves) t i (.deactivate c o)) :
    Verdict m (moves ++ [mv]) c o := by
  have hg := step_grows (m.play moves) mv
  rw [← play_concat] at hg
  have hi := hm.agenda i hmem
  have options : ∀ {old call : Call}, (m.play moves).calls[c]? = some old →
      (m.play (moves ++ [mv])).calls[c]? = some call → call.options = old.options :=
    fun hold hcall => (hg.continues hold hcall).options
  cases hl with
  | closed hcl =>
    exact ⟨by simp, by simp, fun _ _ => .inr (happens_concat.2 (.inr ⟨hx, hcl⟩)), by simp [Outcome.isAction]⟩
  | ready hc hlook => exact .of_read hm hc ⟨_, hc, rfl, .inr ⟨_, hx, hlook⟩⟩
  | collected hc => exact .of_read hm hc ⟨_, hc, rfl, .inl hx⟩
  | interrupted hc hlook hreport =>
    refine ⟨fun _ => ⟨hg.in hi, fun hcall => ?_, ?_⟩, by simp, by simp, by simp [Outcome.isAction]⟩
    · rw [options hc hcall]
      exact hreport
    · exact (h.interrupts hc (check_interrupted hlook)).concat
  | @timedOut _ deadline call hc hlook =>
    obtain ⟨hzero, time, rfl⟩ := check_timedOut hlook
    have hnone : call.handoff.value = none := by
      by_contra hsome
      have hpos := hk hc hmem (by simp [Instr.waits]) (Option.isSome_iff_ne_none.2 hsome)
      omega
    refine ⟨by simp, fun _ => ⟨hg.in hi, fun hcall => ?_, ?_⟩, by simp, by simp [Outcome.isAction]⟩
    · rw [options hc hcall]
      exact h.deadlines hc hmem
    · exact happens_concat.2 (.inr ⟨_, call, hx, hc, hlook, hnone⟩)
  | refused _ ho _ hj =>
    obtain ⟨horigin, rfl⟩ : _ ∧ o = .noAction := by simpa using hj
    have hui := hg.in (hm.in_nested ho horigin)
    exact ⟨by simp, by simp, fun _ hw => absurd (hui.unique hw) (by simp), by simp [Outcome.isAction]⟩
  | accepted _ _ hj => simp at hj
  | pressed _ _ _ hj => simp at hj
  | concluded _ hj => simp at hj

/-- A call with a verdict is among the calls. -/
lemma Sound.verdict_lt {m : Machine} (hm : m.Sound) {c : CallId} {o : Outcome}
    (h : .deactivate c o ∈ m.agenda ∨ .resolve c o ∈ m.agenda ∨ m.returned? c = some o) :
    c < m.calls.length := by
  rcases h with h | h | h
  · exact hm.agenda _ h
  · exact hm.agenda _ h
  · obtain ⟨call, hc, -⟩ := Option.bind_eq_some_iff.1 h
    exact (List.getElem?_eq_some_iff.1 hc).1

/-- A value stands for the same outcome as a call goes on. -/
lemma Call.Continues.outcomeOf {call call' : Call} (h : call.Continues call') (value : Option Nat) :
    call'.outcomeOf value = call.outcomeOf value := by
  cases value with
  | none => rfl
  | some code => simp only [Call.outcomeOf, h.spec]

/-- A call that has read its handoff stays settled over a move. -/
lemma Settled.step {m : Machine} {c : CallId} {call : Call} {value} (hc : m.calls[c]? = some call) (mv : Move)
    (h : (m.step mv).Settled c (call.outcomeOf value)) :
    ∃ call', (m.step mv).calls[c]? = some call' ∧ (m.step mv).Settled c (call'.outcomeOf value) := by
  obtain ⟨call', hc', hcont⟩ := (step_grows m mv).calls hc
  exact ⟨call', hc', hcont.outcomeOf value ▸ h⟩

/-- A call that has read its handoff is among the calls. -/
lemma Reads.lt {m : Machine} {before mv moves c value} (h : Reads c value (m.play before) mv)
    (hpre : before <+: moves) : c < (m.play moves).calls.length := by
  obtain ⟨more, rfl⟩ := hpre
  obtain ⟨call, hc, -, -⟩ := h
  have hg := play_grows (m.play before) more
  rw [← play_append] at hg
  exact Nat.lt_of_lt_of_le (List.getElem?_eq_some_iff.1 hc).1 hg.calls_length

/-- A move keeps calls settled that have read their handoff, and settles the one that reads it. -/
lemma Raced.reads_concat {m : Machine} {moves before : List Move} {mv last : Move} {c value}
    (h : Raced m moves) (hm : (m.play moves).Sound) (hs : (m.play (moves ++ [mv])).Single)
    (hpre : before ++ [last] <+: moves ++ [mv]) (hread : Reads c value (m.play before) last)
    (hw : (m.play (moves ++ [mv])).In .worker c) :
    ∃ call, (m.play (moves ++ [mv])).calls[c]? = some call ∧
      (m.play (moves ++ [mv])).Settled c (call.outcomeOf value) := by
  rw [play_concat] at hs hw ⊢
  rcases List.prefix_concat_iff.1 hpre with he | hpre
  · obtain ⟨rfl, rfl⟩ := List.append_singleton_inj.1 he
    have hold := (step_grows ..).in_before (hread.lt List.prefix_rfl) hw
    obtain ⟨call, hc, hsettled⟩ := hread.settles hold hs
    exact Settled.step hc _ hsettled
  · have hlt := hread.lt ((List.prefix_append ..).trans hpre)
    obtain ⟨call, hc, hsettled⟩ := h.reads hpre hread ((step_grows ..).in_before hlt hw)
    exact Settled.step hc _ (step_settled mv hm hsettled)

/-- An instruction keeps what is known of every call: a new verdict comes from what happens in this move, and an old one
stays. -/
lemma Raced.fires {m m₁ : Machine} {moves : List Move} {mv : Move} {t i rest next sent} (h : Raced m moves)
    (hm : (m.play moves).Sound) (hk : (m.play moves).Kept) (hs : (m.play (moves ++ [mv])).Single)
    (hx : (m.play moves).Executes mv i) (ht : (m.play moves).codes[t]? = some (i :: rest))
    (hf : Fires (m.play moves) t i next sent m₁)
    (he : m.play (moves ++ [mv]) = m₁.goto t (next ++ rest)) : Raced m (moves ++ [mv]) := by
  have hmem : i ∈ (m.play moves).agenda := mem_agenda_of_code ht (List.mem_cons_self ..)
  have hg : (m.play moves).Grows (m.play (moves ++ [mv])) :=
    play_concat m moves mv ▸ step_grows (m.play moves) mv
  constructor
  case interrupts =>
    -- an interruption that is pending was so before, or this move is what interrupts
    intro c call hc hp
    rw [he] at hc
    obtain ⟨old, hold, rfl | ⟨f, hch, rfl⟩⟩ | ⟨p, ticket, q, -, -, -, rfl⟩ := hf.call_before hc
    · exact (h.interrupts hold hp).concat
    · have hinterrupts := h.interrupts hold
      cases hch with
      | interrupt hr => exact happens_concat.2 (.inr (.op hx hr))
      | interruptOnShow hd hterm hno ho hl hr =>
        exact happens_concat.2 (.inr (.onShow hx hd hterm hno ho hl hr))
      | clear _ _ => cases hp
      | complete _ _ =>
        simp only [Handoff.complete] at hp
        split at hp <;> exact (hinterrupts hp).concat
      | take _ _ | release | resolve _ => exact (hinterrupts hp).concat
    · cases hp
  case deadlines =>
    intro c call deadline hc hj
    have known : ∀ {old : Call}, (m.play moves).calls[c]? = some old → old.options.waitLimit.isSome = true →
        call.options.waitLimit.isSome = true := by
      intro old hold hlimit
      rw [(hg.continues hold hc).options]
      exact hlimit
    rw [he] at hj
    rcases hf.mem_agenda ht hj with hj | hj
    · obtain ⟨old, hold, -⟩ := hm.agenda _ hj
      exact known hold (h.deadlines hold hj)
    · -- a wait begins with the limit that its call has
      generalize hd : some deadline = d at hj
      cases hf.leads hj with
      | await hold =>
        refine known hold ?_
        cases hlimit : Options.waitLimit _ with
        | none => simp [hlimit] at hd
        | some limit => rfl
      | awaitSleep hold _ => exact known hold (h.deadlines hold (hd ▸ hmem))
      | accepted _ _ hj => simp at hj
      | refused _ _ _ hj => simp at hj
      | pressed _ _ _ hj => simp at hj
      | concluded _ hj => simp at hj
  case verdicts =>
    intro c o hj
    have old : ∀ {o}, (.deactivate c o ∈ (m.play moves).agenda ∨ .resolve c o ∈ (m.play moves).agenda ∨
        (m.play moves).returned? c = some o) → Verdict m (moves ++ [mv]) c o :=
      fun hj => (h.verdicts hj).concat mv (hm.verdict_lt hj)
    rw [he] at hj
    rcases hj with hj | hj | hj
    · rcases hf.mem_agenda ht hj with hj | hj
      · exact old (.inl hj)
      · exact h.verdict hm hk hmem hx (hf.leads hj)
    · rcases hf.mem_agenda ht hj with hj | hj
      · exact old (.inr (.inl hj))
      · obtain rfl := (hf.leads hj).of_resolve
        exact old (.inl hmem)
    · have hj : m₁.returned? c = some o := hj
      obtain hr | ⟨o', rfl, -, -, hr⟩ := hf.returned? c
      · exact old (.inr (.inr (hr ▸ hj)))
      · rw [hr] at hj
        cases hj
        exact old (.inr (.inl hmem))
  case reads => exact fun hpre hread hw => h.reads_concat hm hs hpre hread hw

/-- A quiet move keeps what is known of every call. -/
lemma Raced.quiet {m : Machine} {moves : List Move} {mv : Move} (h : Raced m moves)
    (hm : (m.play moves).Sound) (hs : (m.play (moves ++ [mv])).Single)
    (hq : Quiet (m.play moves) (m.play (moves ++ [mv]))) : Raced m (moves ++ [mv]) := by
  constructor
  case interrupts => exact fun hc hp => (h.interrupts (hq.calls ▸ hc) hp).concat
  case deadlines => exact fun hc hj => h.deadlines (hq.calls ▸ hc) (hq.agenda.subset hj)
  case verdicts =>
    intro c o hj
    have hold : .deactivate c o ∈ (m.play moves).agenda ∨ .resolve c o ∈ (m.play moves).agenda ∨
        (m.play moves).returned? c = some o := by
      rcases hj with hj | hj | hj
      · exact .inl (hq.agenda.subset hj)
      · exact .inr (.inl (hq.agenda.subset hj))
      · exact .inr (.inr (by simpa [returned?, hq.calls] using hj))
    exact (h.verdicts hold).concat mv (hm.verdict_lt hold)
  case reads => exact fun hpre hread hw => h.reads_concat hm hs hpre hread hw

/-- In every run of a fresh machine, every verdict rests on what has happened. -/
lemma Fresh.raced {m : Machine} (hm : m.Fresh) (moves : List Move) : Raced m moves := by
  induction moves using List.reverseRecOn with
  | nil =>
    have hnone : ∀ c : CallId, m.calls[c]? = none := by simp [hm.calls]
    constructor
    · intro c call hc
      simp [play_nil, hnone] at hc
    · intro c call deadline hc
      simp [play_nil, hnone] at hc
    · intro c o hj
      have hlt := hm.sound.verdict_lt hj
      simp [hm.calls] at hlt
    · intro before mv c value hpre
      simp at hpre
  | append_singleton moves mv ih =>
    have hsound := play_sound hm.sound moves
    have hs := (play_single_kept hm.sound hm.calls (moves ++ [mv])).1
    have hk : (m.play moves).Kept := (play_single_kept hm.sound hm.calls moves).2
    have hplay := play_concat m moves mv
    rcases (steps (m.play moves) mv).fires_or_quiet with ⟨t, i, rest, next, sent, m₁, hx, ht, hf, he⟩ | hq
    · exact ih.fires hsound hk hs hx ht hf (hplay.trans he)
    · exact ih.quiet hsound hs (hplay ▸ hq)

/-- However the steps of a call interleave with button handlers, interrupters and the clock: off the UI
thread, the call returns `interrupted` only if it reports interruptions and one reached it, and `timedOut`
only if it has a time limit and nothing was recorded when its wait gave up; a code that was recorded at any
time before its final read is returned as the action of that code, and an action is returned only if that
read found it; `noAction` is returned only if that read found nothing, or the dialog could not be scheduled.
On the UI thread the call returns neither `interrupted` nor `timedOut`. -/
theorem outcome_under_races {m : Machine} (hm : m.Fresh) (moves : List Move) {c : CallId} {call : Call}
    {o : Outcome} (hc : (m.play moves).calls[c]? = some call) (ho : call.outcome = some o) :
    (call.context = .worker →
      (o = .interrupted → call.options.reportInterruption = true ∧ Happens m moves (Interrupts c)) ∧
      (o = .timedOut → call.options.waitLimit.isSome = true ∧ Happens m moves (GivesUp c)) ∧
      (∀ earlier later mv value code, earlier ++ later ++ [mv] <+: moves → (m.play earlier).Recorded c code →
        Reads c value (m.play (earlier ++ later)) mv →
        o = .ofCode code call.spec.actions.length ∧ o.isAction = true ∧ o.code = code) ∧
      (o.isAction = true → Happens m moves (Reads c (some o.code))) ∧
      (o = .noAction → Happens m moves (Reads c none) ∨ Happens m moves (Unscheduled c))) ∧
    (call.context = .uiThread → o ≠ .interrupted ∧ o ≠ .timedOut) := by
  have hraced := hm.raced moves
  have hreturned : (m.play moves).returned? c = some o := by simp [returned?, hc, ho]
  have hverdict := hraced.verdicts (.inr (.inr hreturned))
  constructor
  · intro hx
    have hw : (m.play moves).In .worker c := ⟨call, hc, hx⟩
    refine ⟨fun h => ?_, fun h => ?_, fun earlier later mv value code hpre hrec hread => ?_, hverdict.action,
      fun h => hverdict.noAction h hw⟩
    · obtain ⟨-, hreport, hhappens⟩ := hverdict.interrupted h
      exact ⟨hreport hc, hhappens⟩
    · obtain ⟨-, hlimit, hhappens⟩ := hverdict.timedOut h
      exact ⟨hlimit hc, hhappens⟩
    · have hvalue : value = some code := hrec.read later (play_append .. ▸ hread)
      obtain ⟨call', hc', hsettled⟩ := hraced.reads hpre hread hw
      rw [hc] at hc'
      cases hc'
      have ho : o = .ofCode code call.spec.actions.length := by
        rw [hsettled.returned hreturned, hvalue]
        rfl
      have hanswer : (m.play moves).Answerable c code := by
        obtain ⟨old, hold, hv⟩ := hrec
        obtain ⟨more, rfl⟩ := (List.prefix_append earlier (later ++ [mv])).trans (List.append_assoc .. ▸ hpre)
        rw [play_append]
        exact (play_grows ..).answerable ((play_sound hm.sound earlier).values hold hv)
      obtain ⟨call', slot, hc', hl⟩ := hanswer
      rw [hc] at hc'
      cases hc'
      rw [ho]
      exact ⟨rfl, Slot.outcome_of_layout hl⟩
  · intro hx
    have hui : (m.play moves).In .uiThread c := ⟨call, hc, hx⟩
    constructor
    · intro h
      cases (hverdict.interrupted h).1.unique hui
    · intro h
      cases (hverdict.timedOut h).1.unique hui

/-- A worker asks and reports interruptions, and another thread interrupts it. -/
def interruptedWorker : Machine :=
  start [[.ask 0 (.caller 0)], [.interrupt 0]] [{ spec := saveSpec, options := { reportInterruption := true } }]
    .manual

/-- The interruption that the worker returns has reached it. -/
theorem outcome_under_races_interrupted :
    Happens interruptedWorker (List.replicate 5 (.exec 0) ++ .exec 1 :: List.replicate 3 (.exec 0))
      (Interrupts 0) := by
  have hfresh : interruptedWorker.Fresh := start_fresh ..
  have hcall : (interruptedWorker.play
      (List.replicate 5 (.exec 0) ++ .exec 1 :: List.replicate 3 (.exec 0))).calls[0]? =
        some {
          prompt := 0
          spec := saveSpec
          options := { reportInterruption := true }
          context := .worker
          ticket := .caller 0
          outcome := some .interrupted } := by cbv
  exact (((outcome_under_races hfresh _ hcall rfl).1 rfl).1 rfl).2

end MessageBox.Machine
