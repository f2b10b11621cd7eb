import MessageBox.Proofs.Machine.Active
import MessageBox.Proofs.Machine.Answered
import MessageBox.Proofs.Machine.Refusals

/-!
# Failures and the last error

When calls do not overlap, and none is interrupted or gives up waiting, a call returns no action if and only if one
of its own toolkit steps failed, and then the text of this failure is the last error; otherwise it returns an
action, and leaves the last error as it found it (`failures_agree`). On a worker, whatever else goes on, the text is
stored before the call is released.

Between the start of a call and its return, only the call itself has failures to report (`Fresh.reports_own`), so
the last error changes once or not at all (`Fresh.last_error`).
-/

namespace MessageBox.Machine

/-- A call starts with this move. -/
def Starts (c : CallId) (m : Machine) (mv : Move) : Prop :=
  c = m.calls.length ∧ c < (m.step mv).calls.length

/-- A call returns an outcome with this move. -/
def Gives (c : CallId) (o : Outcome) (m : Machine) (mv : Move) : Prop :=
  m.returned? c = none ∧ (m.step mv).returned? c = some o

/-- A call is under way: it has started and not returned. On the UI thread it is over, too, when a panic has taken
it from the thread. -/
def Underway (m : Machine) (c : CallId) : Prop :=
  m.returned? c = none ∧ (m.In .worker c ∨ ∃ i ∈ m.agenda, i.serves m c = true)

/-- The calls of a run do not overlap, and none is interrupted or gives up waiting. -/
structure Undisturbed (m : Machine) (moves : List Move) : Prop where
  sequential : ∀ before, before <+: moves → ∀ {c c'}, (m.play before).Underway c →
    (m.play before).Underway c' → c = c'
  uninterrupted : ∀ c, ¬ Happens m moves (Interrupts c)
  patient : ∀ c, ¬ Happens m moves (GivesUp c)

/-- What holds of the calls of a run holds of those of its first part. -/
lemma Undisturbed.earlier {m : Machine} {early moves : List Move} (h : Undisturbed m moves)
    (hpre : early <+: moves) : Undisturbed m early where
  sequential before hbefore := h.sequential before (hbefore.trans hpre)
  uninterrupted c hint := h.uninterrupted c (hint.later hpre)
  patient c hgives := h.patient c (hgives.later hpre)

/-- A run does not change the overrides. -/
lemma play_overrides (m : Machine) (moves : List Move) : (m.play moves).overrides = m.overrides :=
  play_induction (P := fun s => s.overrides = m.overrides) rfl (fun s mv h => (step_overrides s mv).trans h) moves

/-- Whether an instruction interrupts a prompt. -/
def Instr.interrupts : Instr → Bool
  | .op (.interrupt _) => true
  | _ => false

/-- Whether an instruction waits for a limited time. -/
def Instr.limited : Instr → Bool
  | .await _ deadline => deadline.isSome
  | _ => false

/-- A run without interruptions interrupts no call. -/
lemma not_interrupts {m : Machine} {moves : List Move} (hov : m.overrides = {})
    (h : m.tally (fun _ => Instr.interrupts) moves = 0) (c : CallId) : ¬ Happens m moves (Interrupts c) := by
  rintro ⟨before, mv, hpre, hint⟩
  cases hint with
  | op hx _ => exact Nat.ne_of_gt (tally_pos_iff.2 ⟨before, mv, hpre, _, hx, rfl⟩) h
  | onShow _ _ _ _ hshow =>
    rw [play_overrides, hov] at hshow
    cases hshow

/-- In a run without time limits no call gives up. -/
lemma not_givesUp {m : Machine} {moves : List Move} (h : m.tally (fun _ => Instr.limited) moves = 0)
    (c : CallId) : ¬ Happens m moves (GivesUp c) := by
  rintro ⟨before, mv, hpre, deadline, call, hx, -, hlook, -⟩
  obtain ⟨-, time, rfl⟩ := check_timedOut hlook
  exact Nat.ne_of_gt (tally_pos_iff.2 ⟨before, mv, hpre, _, hx, rfl⟩) h

/-! ### No action -/

/-- Off the toolkit, only a closed loop and a look at the handoff end a call without an action. -/
lemma Leads.deactivates {m : Machine} {t i c o} (h : Leads m t i (.deactivate c o)) (ho : o = .noAction)
    (hi : i.dialog? = none) :
    (∃ e, m.FailsWith c e i) ∨ ∃ call, m.calls[c]? = some call ∧ call.recorded = .noAction ∧
      (i = .collect c ∨ ∃ deadline, i = .await c deadline ∧
        Handoff.wait.check deadline m.clock call.handoff = .ready) := by
  cases h with
  | closed hc => exact .inl ⟨.closed, rfl, hc, rfl⟩
  | ready hc hlook => exact .inr ⟨_, hc, ho, .inr ⟨_, rfl, hlook⟩⟩
  | collected hc => exact .inr ⟨_, hc, ho, .inl rfl⟩
  | interrupted | timedOut => cases ho
  | accepted _ _ hj | pressed _ _ _ hj | concluded _ hj => simp at hj
  | refused hoffer _ _ _ =>
    cases i with
    | putBack => cases hoffer
    | _ => simp_all [Instr.dialog?]

/-- The toolkit ends a call without an action when it fails. -/
lemma DialogStep.deactivates {m : Machine} {i next sent dialogs pending events} {c : CallId} {o : Outcome}
    (h : DialogStep m i next sent dialogs pending events)
    (hj : .deactivate c o ∈ next ∨ .deactivate c o ∈ sent) : (∃ e, m.FailsWith c e i) ∨ i.dialog? = none := by
  have refused : ∀ {d offer e}, m.dialogs[d]? = some offer → .deactivate c o ∈ offer.origin.refused e →
      m.caller? d = some c := by
    intro d offer e ho hj
    obtain ⟨horigin, -⟩ : _ ∧ o = .noAction := by simpa using hj
    simp [Machine.caller?, ho, horigin, Origin.call?]
  cases h with
  | fail ho he =>
    rcases hj with hj | hj
    · exact .inl ⟨_, refused ho hj, he⟩
    · cases hj
  | closed ho hc =>
    rcases hj with hj | hj
    · exact .inl ⟨_, refused ho hj, hc, rfl⟩
    · cases hj
  | other hi _ => exact .inr hi
  | _ => simp at hj

/-- A worker collects its outcome at once only after it was interrupted. -/
lemma Fresh.collect_interrupted {m : Machine} (hm : m.Fresh) {moves : List Move} {c : CallId}
    (h : .collect c ∈ (m.play moves).agenda) (hw : (m.play moves).In .worker c) :
    Happens m moves (Interrupts c) := by
  induction moves using List.reverseRecOn with
  | nil =>
    obtain ⟨o, ho⟩ := hm.agenda h
    cases ho
  | append_singleton moves mv ih =>
    have hsound := play_sound hm.sound moves
    have hg := step_grows (m.play moves) mv
    rw [play_concat] at h hw
    have old : .collect c ∈ (m.play moves).agenda → Happens m (moves ++ [mv]) (Interrupts c) := fun h =>
      (ih h (hg.in_before (hsound.agenda _ h) hw)).concat
    rcases (steps (m.play moves) mv).fires_or_quiet with ⟨t, i, rest, next, sent, m₁, hx, ht, hf, he⟩ | hq
    · rcases hf.mem_agenda ht (he ▸ h) with h | hnew
      · exact old h
      · have hi := hsound.agenda i (mem_agenda_of_code ht (List.mem_cons_self ..))
        cases hf.leads hnew with
        | swallowed hc hlook => exact ((hm.raced moves).interrupts hc (check_interrupted hlook)).concat
        | nestCollect => cases (hg.in hi).unique hw
        | accepted _ _ hj | refused _ _ _ hj | pressed _ _ _ hj | concluded _ hj => simp at hj
    · exact old (hq.agenda.subset h)

/-- A call that is about to return no action has failed, if it was not interrupted. -/
lemma Fresh.noAction_failed {m : Machine} (hm : m.Fresh) (hterm : m.terminal = none) (hov : m.overrides = {})
    (hreserved : m.Reserved) {moves : List Move} {c : CallId} (hquiet : ¬ Happens m moves (Interrupts c))
    (h : .deactivate c .noAction ∈ (m.play moves).agenda ∨ .resolve c .noAction ∈ (m.play moves).agenda) :
    ∃ e, Happens m moves (Fails c e) := by
  induction moves using List.reverseRecOn with
  | nil => rcases h with h | h <;> obtain ⟨o, ho⟩ := hm.agenda h <;> cases ho
  | append_singleton moves mv ih =>
    have hbare := (play_trusty (hm.trusty hterm hov) moves).bare
    have old : .deactivate c .noAction ∈ (m.play moves).agenda ∨ .resolve c .noAction ∈ (m.play moves).agenda →
        ∃ e, Happens m (moves ++ [mv]) (Fails c e) := by
      intro h
      obtain ⟨e, he⟩ := ih (fun hint => hquiet hint.concat) h
      exact ⟨e, he.concat⟩
    rw [play_concat] at h
    rcases (steps (m.play moves) mv).fires_or_quiet with ⟨t, i, rest, next, sent, m₁, hx, ht, hf, he⟩ | hq
    · rw [he] at h
      rcases h with h | h <;> rcases hf.mem_agenda ht h with h | hnew
      · exact old (.inl h)
      · have hnow : (∃ e, (m.play moves).FailsWith c e i) ∨ ∃ call, (m.play moves).calls[c]? = some call ∧
            call.recorded = .noAction ∧ (i = .collect c ∨ ∃ deadline, i = .await c deadline ∧
              Handoff.wait.check deadline (m.play moves).clock call.handoff = .ready) := by
          obtain ⟨events, hstep, -⟩ := hf.dialogStep ht hbare
          exact hstep.deactivates hnew |>.elim .inl ((hf.leads hnew).deactivates rfl)
        rcases hnow with ⟨e, hfails⟩ | ⟨call, hc, hrec, hlook⟩
        · exact ⟨e, happens_concat.2 (.inr ⟨i, hx, hfails⟩)⟩
        · have hnone : call.handoff.value = none := by
            rcases hbare.sound.recorded hc with ⟨haction, -⟩ | ⟨-, hnone⟩
            · rw [hrec] at haction
              cases haction
            · exact hnone
          rcases hlook with rfl | ⟨deadline, rfl, hready⟩
          · cases hcontext : call.context with
            | uiThread =>
              -- the nested run has ended, so there is an answer
              obtain ⟨code, call', hc', hsome⟩ := hm.collected hterm hov hreserved hx ⟨call, hc, hcontext⟩
              obtain rfl := Option.some.inj (hc.symm.trans hc')
              cases hnone.symm.trans hsome
            | worker => exact absurd (hm.collect_interrupted hx.mem_agenda ⟨call, hc, hcontext⟩).concat hquiet
          · obtain ⟨e, hstored⟩ := hm.stored_of_permit hterm hov hc hnone (check_ready hready)
            exact ⟨e, hstored.fails.concat⟩
      · exact old (.inr h)
      · obtain rfl := (hf.leads hnew).of_resolve
        exact old (.inl hx.mem_agenda)
    · exact old (h.imp (hq.agenda.subset ·) (hq.agenda.subset ·))

/-! ### A call is released before it has an outcome -/

/-- A call that has started makes no more dialogs than it has and is going to have. -/
lemma play_made_le {m : Machine} {c : CallId} (hc : c < m.calls.length) (moves : List Move) :
    (m.play moves).made c ≤ m.made c :=
  (play_induction (P := fun s => c < s.calls.length ∧ s.made c ≤ m.made c) ⟨hc, Nat.le_refl _⟩
    (fun s mv h => ⟨Nat.lt_of_lt_of_le h.1 (step_grows s mv).calls_length,
      Nat.le_trans (step_made_le mv h.1) h.2⟩) moves).2

/-- The dialog of a call whose task was not accepted is never made. -/
lemma Fresh.unscheduled_undialogued {m : Machine} (hm : m.Fresh) (hov : m.overrides = {}) {moves : List Move}
    {c : CallId} (h : Happens m moves (Unscheduled c)) (d : DialogId) : (m.play moves).caller? d ≠ some c := by
  intro hd
  obtain ⟨before, mv, ⟨more, rfl⟩, hx, hclosed⟩ := h
  have hover : (m.play before).overrides = {} := (play_overrides m before).trans hov
  have hw : (m.play before).In .worker c := (play_sound hm.sound before).agenda _ hx.mem_agenda
  have hzero := made_of_unscheduled hover hx hclosed (hm.made_le_one before c)
  have hlt := Nat.lt_of_lt_of_le hw.lt (step_grows _ mv).calls_length
  have hle := play_made_le hlt more
  rw [← play_concat, ← play_append, play_concat] at hle
  have hpos := made_pos_of_caller hd
  unfold made at hle hzero
  omega

/-- A machine grows in the course of a run. -/
lemma grows_later (m : Machine) {early moves : List Move} (h : early <+: moves) :
    (m.play early).Grows (m.play moves) := by
  obtain ⟨more, rfl⟩ := h
  rw [play_append]
  exact play_grows (m.play early) more

/-- Nobody has read the outcome of a call that is going to be released without an answer: a permit would come from
another release, and there is one only. -/
lemma Fresh.released_unread {m : Machine} (hm : m.Fresh) (hterm : m.terminal = none) (hov : m.overrides = {})
    {moves : List Move} (hu : Undisturbed m moves) {c : CallId} (h : .release c ∈ (m.play moves).agenda)
    (value : Option Nat) : ¬ Happens m moves (Reads c value) := by
  rintro ⟨before, mv, hpre, call, hc, -, hx⟩
  have hearly : before <+: moves := (List.prefix_append before [mv]).trans hpre
  have hg := grows_later m hearly
  obtain ⟨d, hd, hrefused⟩ := hm.release_refused hterm hov moves h
  rcases hx with hx | ⟨deadline, hx, hready⟩
  · have hw : (m.play before).In .worker c :=
      hg.in_before ((play_sound hm.sound before).agenda _ hx.mem_agenda) ((play_sound hm.sound moves).agenda _ h)
    exact hu.uninterrupted c ((hm.collect_interrupted hx.mem_agenda hw).later hearly)
  · cases hvalue : call.handoff.value with
    | some code => exact hm.refused_unanswered hterm hov hd hrefused code (hg.recorded ⟨call, hc, hvalue⟩)
    | none =>
      obtain ⟨first, last, hfirst, hreleased⟩ := hm.released_of_permit hc hvalue (check_ready hready)
      have htally : 0 < m.tally (fun _ => Instr.settles c) moves :=
        tally_pos_iff.2 ⟨first, last, hfirst.trans hearly, .release c, hreleased, by simp [Instr.settles]⟩
      have hwaiting : 0 < (m.play moves).agenda.countP (Instr.settles c) :=
        List.countP_pos_iff.2 ⟨_, h, by simp [Instr.settles]⟩
      have hended := hm.ended_le_one hterm hov moves d
      have hsettled := (hm.settled_le hterm hov moves c).1 d hd
      unfold settled at hsettled
      omega

/-- A call that is going to be released without an answer has no outcome yet. -/
lemma Fresh.released_first {m : Machine} (hm : m.Fresh) (hterm : m.terminal = none) (hov : m.overrides = {})
    {moves : List Move} (hu : Undisturbed m moves) {c : CallId} (h : .release c ∈ (m.play moves).agenda)
    {o : Outcome} : ¬ (.deactivate c o ∈ (m.play moves).agenda ∨ .resolve c o ∈ (m.play moves).agenda ∨
      (m.play moves).returned? c = some o) := by
  intro hverdict
  have hw : (m.play moves).In .worker c := (play_sound hm.sound moves).agenda _ h
  have hunread := hm.released_unread hterm hov hu h
  have hraced := (hm.raced moves).verdicts hverdict
  cases o with
  | noAction =>
    rcases hraced.noAction rfl hw with hread | hunscheduled
    · exact hunread none hread
    · obtain ⟨d, hd, -⟩ := hm.release_refused hterm hov moves h
      exact hm.unscheduled_undialogued hov hunscheduled d hd
  | interrupted => exact hu.uninterrupted c (hraced.interrupted rfl).2.2
  | timedOut => exact hu.patient c (hraced.timedOut rfl).2.2
  | action1 | action2 | action3 => exact hunread _ (hraced.action rfl)

/-! ### Who has a failure to report -/

/-- A call has a failure to report: the report comes next on its thread, and then the call ends or is released. -/
def Unreported (m : Machine) (c : CallId) (e : ToolkitFailure) : Prop :=
  ∃ (t : ThreadId) (rest : List Instr), m.codes[t]? = some (.report e :: .deactivate c .noAction :: rest) ∨
    m.codes[t]? = some (.report e :: .release c :: rest)

/-- Who reports a failure has failed. -/
lemma Fresh.unreported_of_report {m : Machine} (hm : m.Fresh) (hterm : m.terminal = none) (hov : m.overrides = {})
    {moves : List Move} {t : ThreadId} {e : ToolkitFailure} {rest : List Instr}
    (ht : (m.play moves).codes[t]? = some (.report e :: rest)) :
    ∃ c, (m.play moves).Unreported c e ∧ Happens m moves (Fails c e) := by
  cases hm.telling hterm hov moves _ (List.mem_append_left _ (List.mem_of_getElem? ht)) with
  | silent hs => cases hs _ (List.mem_cons_self ..)
  | ends hfails => exact ⟨_, ⟨t, _, .inl ht⟩, hfails⟩
  | refused hfails => exact ⟨_, ⟨t, _, .inr ht⟩, hfails⟩

/-- A call with a failure to report is about to end or to be released. -/
lemma Unreported.mem {m : Machine} {c : CallId} {e : ToolkitFailure} (h : m.Unreported c e) :
    .deactivate c .noAction ∈ m.agenda ∨ .release c ∈ m.agenda := by
  obtain ⟨t, rest, ht | ht⟩ := h
  · exact .inl (mem_agenda_of_code ht (by simp))
  · exact .inr (mem_agenda_of_code ht (by simp))

/-- In a run, calls and their registration are in order. -/
lemma Fresh.play_ordered {m : Machine} (hm : m.Fresh) (moves : List Move) : (m.play moves).Ordered :=
  play_induction hm.ordered (fun _ mv h => step_ordered mv h) moves

/-- A call that is about to end is under way, and not about to return yet. -/
lemma Ordered.ends {m : Machine} (hm : m.Ordered) {c : CallId} {o : Outcome} (h : .deactivate c o ∈ m.agenda) :
    m.Underway c ∧ ∀ o', .resolve c o' ∉ m.agenda := by
  have hlt : c < m.calls.length := hm.sound.agenda _ h
  have hc := List.getElem?_eq_getElem hlt
  cases hcontext : (m.calls[c]).context with
  | uiThread =>
    have hui : m.In .uiThread c := ⟨_, hc, hcontext⟩
    have hs : (Instr.deactivate c o).serves m c = true := by simp [Instr.serves]
    refine ⟨⟨hm.sole.not_returned hui h hs, .inr ⟨_, h, hs⟩⟩, fun o' ho => ?_⟩
    cases hm.sole.unique hui h ho hs (by simp [Instr.serves])
  | worker =>
    have hw : m.In .worker c := ⟨_, hc, hcontext⟩
    have hp : (Instr.deactivate c o).pursues c = true := by simp [Instr.pursues]
    refine ⟨⟨hm.single.not_returned hw h hp, .inl hw⟩, fun o' ho => ?_⟩
    cases hm.single.unique hw h ho hp (by simp [Instr.pursues])

/-- A call that has a failure to report is under way, and not about to return yet. -/
lemma Fresh.unreported_underway {m : Machine} (hm : m.Fresh) (hterm : m.terminal = none) (hov : m.overrides = {})
    {moves : List Move} (hu : Undisturbed m moves) {c : CallId} {e : ToolkitFailure}
    (h : (m.play moves).Unreported c e) :
    (m.play moves).Underway c ∧ ∀ o, .resolve c o ∉ (m.play moves).agenda := by
  have hord := hm.play_ordered moves
  rcases h.mem with hmem | hmem
  · exact hord.ends hmem
  · have hfirst := fun o => hm.released_first hterm hov hu hmem (o := o)
    refine ⟨⟨?_, .inl (hord.sound.agenda _ hmem)⟩, fun o ho => hfirst o (.inr (.inl ho))⟩
    cases hr : (m.play moves).returned? c with
    | none => rfl
    | some o => exact absurd (.inr (.inr hr)) (hfirst o)

/-! ### Calls under way -/

/-- A call under way is among the calls. -/
lemma Underway.lt {m : Machine} {c : CallId} (h : m.Underway c) (hm : m.Sound) : c < m.calls.length := by
  rcases h.2 with hw | ⟨i, hi, hs⟩
  · exact hw.lt
  · exact Instr.Sound.serves_lt hm (hm.agenda i hi) hs

/-- A call that is under way was so before, if it had started. -/
lemma Underway.before {m : Machine} {mv : Move} {c : CallId} (h : (m.step mv).Underway c) (hm : m.Sound)
    (hc : c < m.calls.length) : m.Underway c := by
  have hg := step_grows m mv
  obtain ⟨hnone, hgoes⟩ := h
  have hnot : m.returned? c = none := by
    rcases (steps m mv).fires_or_quiet with ⟨t, i, rest, next, sent, m₁, -, -, hf, he⟩ | hq
    · have hsame : m₁.returned? c = none := by
        rw [he] at hnone
        exact hnone
      obtain h | ⟨o, -, -, -, h⟩ := hf.returned? c
      · exact h ▸ hsame
      · rw [hsame] at h
        cases h
    · simpa [returned?, hq.calls] using hnone
  refine ⟨hnot, ?_⟩
  rcases hgoes with hw | ⟨j, hj, hs⟩
  · exact .inl (hg.in_before hc hw)
  · by_cases hw : m.In .worker c
    · exact .inl hw
    · right
      have old : j ∈ m.agenda → ∃ i ∈ m.agenda, i.serves m c = true := fun hj =>
        ⟨j, hj, (hg.serves (hm.agenda j hj) c).symm.trans hs⟩
      rcases (steps m mv).fires_or_quiet with ⟨t, i, rest, next, sent, m₁, hx, ht, hf, he⟩ | hq
      · rcases hf.mem_agenda ht (he ▸ hj) with hj | hnew
        · exact old hj
        · rw [he] at hs
          rcases hf.serves_from (hm.agenda i hx.mem_agenda) hw hnew hs with hserves | ⟨hstarts, -⟩
          · exact ⟨i, hx.mem_agenda, hserves⟩
          · exact absurd hstarts (Nat.ne_of_lt hc)
      · exact old (hq.agenda.subset hj)

/-- A call that was there before and is under way was so before. -/
lemma Underway.before_play {m : Machine} {more : List Move} {c : CallId} (h : (m.play more).Underway c)
    (hm : m.Sound) (hc : c < m.calls.length) : m.Underway c := by
  induction more using List.reverseRecOn with
  | nil => exact h
  | append_singleton more mv ih =>
    rw [play_concat] at h
    exact ih (h.before (play_sound hm more) (Nat.lt_of_lt_of_le hc (play_grows m more).calls_length))

/-- A call starts by being asked for. -/
lemma Starts.asks {m : Machine} {mv : Move} {c : CallId} (h : Starts c m mv) :
    ∃ p ticket, m.Executes mv (.op (.ask p ticket)) := by
  obtain ⟨rfl, hlt⟩ := h
  rcases (steps m mv).fires_or_quiet with ⟨t, i, rest, next, sent, m₁, hx, -, hf, he⟩ | hq
  · have hlt₁ : m.calls.length < m₁.calls.length := by
      rw [he] at hlt
      exact hlt
    obtain h | ⟨p, ticket, q, rfl, -, -⟩ | ⟨c, f, -, h⟩ := hf.calls
    · rw [h] at hlt₁
      exact absurd hlt₁ (Nat.lt_irrefl _)
    · exact ⟨p, ticket, hx⟩
    · rw [h, List.length_modify] at hlt₁
      exact absurd hlt₁ (Nat.lt_irrefl _)
  · rw [hq.calls] at hlt
    exact absurd hlt (Nat.lt_irrefl _)

/-- A call returns what it was about to return. -/
lemma Gives.resolves {m : Machine} {mv : Move} {c : CallId} {o : Outcome} (h : Gives c o m mv) :
    m.Executes mv (.resolve c o) := by
  obtain ⟨hnone, hsome⟩ := h
  rcases (steps m mv).fires_or_quiet with ⟨t, i, rest, next, sent, m₁, hx, -, hf, he⟩ | hq
  · have hsome₁ : m₁.returned? c = some o := by
      rw [he] at hsome
      exact hsome
    obtain h | ⟨o', rfl, -, -, h⟩ := hf.returned? c
    · rw [h, hnone] at hsome₁
      cases hsome₁
    · obtain rfl := Option.some.inj (h.symm.trans hsome₁)
      exact hx
  · simp only [returned?, hq.calls] at hsome hnone
    rw [hnone] at hsome
    cases hsome

/-! ### The last error -/

/-- What a program is told about its offer leaves the last error alone. -/
lemma lastError_tellProgram (m : Machine) (t : ThreadId) (origin : Origin) (failure : Option ToolkitFailure) :
    (m.tellProgram t origin failure).lastError = m.lastError := by
  rw [tellProgram_eq]

/-- No instruction but a report changes the last error. -/
lemma Fires.lastError {m m₁ : Machine} {t i next sent} (hf : Fires m t i next sent m₁)
    (hi : ∀ e, i ≠ .report e) : m₁.lastError = m.lastError := by
  cases hf with
  | report => exact absurd rfl (hi _)
  | keyClosed | key | conclude => simp [note_eq]
  | presentOpen | acceptFailed | schedulePress | schedulePressClosed | keep =>
    exact lastError_tellProgram ..
  | _ => rfl

/-- The last error changes with a report, and only with one. -/
lemma step_lastError (m : Machine) (mv : Move) :
    (∀ e, m.Executes mv (.report e) → (m.step mv).lastError = e.message) ∧
      ((∀ e, ¬ m.Executes mv (.report e)) → (m.step mv).lastError = m.lastError) := by
  constructor
  · intro e hx
    obtain ⟨t, rest, next, sent, m₁, -, hf, he⟩ := hx.fires (by simp [execInstr]) nofun nofun
    rw [he]
    cases hf with
    | report => rfl
    | noCall hi _ => cases hi
    | noOffer hi _ => cases hi
  · intro hx
    have hs := steps m mv
    generalize m.step mv = m' at hs
    cases hs with
    | fires hth hcode hawake hf =>
      exact hf.lastError fun e hi => hx e ⟨_, _, _, rfl, hth, hi ▸ hcode, hawake⟩
    | @panics t th rest _ _ _ =>
      obtain ⟨threads, depth, history, hpanic, -⟩ := panic_eq m t rest
      rw [hpanic]
    | _ => rfl

/-- What is not executed stays in front of its thread. -/
lemma codes_step_unexecuted {m : Machine} {mv : Move} {t : ThreadId} {i : Instr} {rest : List Instr}
    (ht : m.codes[t]? = some (i :: rest)) (hx : ¬ m.Executes mv i) :
    (m.step mv).codes[t]? = some (i :: rest) := by
  by_cases hmv : mv = .exec t
  · subst hmv
    have hs := steps m (.exec t)
    generalize m.step (.exec t) = m' at hs
    have executes : ∀ {th : Thread} {j rest'}, m.threads[t]? = some th → th.code = j :: rest' →
        th.asleep = false → m.Executes (.exec t) i := by
      intro th j rest' hth hcode hawake
      obtain ⟨rfl, rfl⟩ := List.cons.inj (Option.some.inj ((hcode ▸ codes_getElem? hth).symm.trans ht))
      exact ⟨t, th, _, rfl, hth, hcode, hawake⟩
    cases hs with
    | stuck _ => exact ht
    | fires hth hcode hawake _ | takes hth hcode hawake _ _ | panics hth hcode hawake =>
      exact absurd (executes hth hcode hawake) hx
  · exact codes_step_other hmv ht

/-- What has failed is to be reported next. -/
lemma Fails.unreported {m : Machine} {mv : Move} {c : CallId} {e : ToolkitFailure} (h : Fails c e m mv)
    (hov : m.overrides = {}) : (m.step mv).Unreported c e := by
  obtain ⟨i, hx, hi⟩ := h
  obtain ⟨t, rest, next, sent, m₁, ht, hf, he⟩ := hx.fires
    (by cases i <;> first | exact hi.elim | simp [execInstr]) (by rintro token rfl; exact hi)
    (by rintro rfl; exact hi)
  obtain ⟨-, hafter⟩ := hf.aftermath hov hi
  have hcode := codes_goto_self (hf.code ht) (next ++ rest)
  rw [he]
  cases hafter with
  | ends => exact ⟨t, _, .inl hcode⟩
  | releases => exact ⟨t, _, .inr hcode⟩

/-- Between the start and the return of a call, while nobody else has a failure to report, the last error is as
before, or it is the failure of the call, once it has been reported. -/
lemma Fresh.last_error {m : Machine} (hm : m.Fresh) (hterm : m.terminal = none) (hov : m.overrides = {})
    {before during : List Move} {start : Move} {c : CallId} (hstart : Starts c (m.play before) start)
    (halone : ∀ more, more <+: during → ∀ c' e, (m.play (before ++ start :: more)).Unreported c' e → c' = c) :
    (∀ e, Happens m (before ++ start :: during) (Fails c e) →
      (m.play (before ++ start :: during)).lastError = e.message ∨
        (m.play (before ++ start :: during)).Unreported c e) ∧
    ((∀ e, ¬ Happens m (before ++ start :: during) (Fails c e)) →
      (m.play (before ++ start :: during)).lastError = (m.play before).lastError) := by
  induction during using List.reverseRecOn with
  | nil =>
    obtain ⟨p, ticket, hx⟩ := hstart.asks
    have hnot : ∀ e, ¬ Happens m (before ++ [start]) (Fails c e) := by
      intro e h
      rcases happens_concat.1 h with h | ⟨i, hx', hi⟩
      · obtain ⟨hlt, -⟩ := hm.failed hterm hov h
        exact absurd hstart.1 (Nat.ne_of_lt hlt)
      · obtain rfl := hx.unique hx'
        exact hi
    refine ⟨fun e h => absurd h (hnot e), fun _ => ?_⟩
    rw [play_concat]
    refine (step_lastError _ start).2 fun e hreport => ?_
    cases hx.unique hreport
  | append_singleton during mv ih =>
    have hpre : during <+: during ++ [mv] := List.prefix_append ..
    obtain ⟨hfailed, hkept⟩ := ih fun more hmore => halone more (hmore.trans hpre)
    rw [← List.cons_append, ← List.append_assoc, play_concat]
    generalize hrun : before ++ start :: during = run at hfailed hkept ⊢
    by_cases hreport : ∃ e, (m.play run).Executes mv (.report e)
    · obtain ⟨e, hx⟩ := hreport
      obtain ⟨t, th, rest, -, hth, hcode, -⟩ := id hx
      obtain ⟨c', hun, hfails⟩ := hm.unreported_of_report hterm hov (hcode ▸ codes_getElem? hth)
      obtain rfl : c' = c := halone during hpre c' e (hrun ▸ hun)
      refine ⟨fun e' h => .inl ?_, fun hnone => absurd hfails.concat (hnone e)⟩
      rw [← hm.fails_once hterm hov hfails.concat h]
      exact (step_lastError _ mv).1 e hx
    · have hsame := (step_lastError (m.play run) mv).2 fun e hx => hreport ⟨e, hx⟩
      rw [hsame]
      refine ⟨fun e h => ?_, fun hnone => hkept fun e h => hnone e h.concat⟩
      rcases happens_concat.1 h with h | hnow
      · refine (hfailed e h).imp_right ?_
        rintro ⟨t, rest, ht⟩
        exact ⟨t, rest, ht.imp (codes_step_unexecuted · fun hx => hreport ⟨e, hx⟩)
          (codes_step_unexecuted · fun hx => hreport ⟨e, hx⟩)⟩
      · exact .inr (hnow.unreported ((play_overrides m run).trans hov))

/-- While a call is under way in a run without overlapping calls, nobody else has a failure to report. -/
lemma Fresh.reports_own {m : Machine} (hm : m.Fresh) (hterm : m.terminal = none) (hov : m.overrides = {})
    {before during : List Move} {start : Move} {c : CallId} (hstart : Starts c (m.play before) start)
    (hu : Undisturbed m (before ++ start :: during)) (hc : (m.play (before ++ start :: during)).Underway c)
    {more : List Move} (hmore : more <+: during) {c' : CallId} {e : ToolkitFailure}
    (h : (m.play (before ++ start :: more)).Unreported c' e) : c' = c := by
  obtain ⟨later, rfl⟩ := hmore
  have hpre : before ++ start :: more <+: before ++ start :: (more ++ later) := ⟨later, by simp⟩
  have hlt : c < (m.play (before ++ start :: more)).calls.length := by
    have hfirst : before ++ [start] <+: before ++ start :: more := ⟨more, by simp⟩
    have hstarted := hstart.2
    rw [← play_concat] at hstarted
    exact Nat.lt_of_lt_of_le hstarted (grows_later m hfirst).calls_length
  have hplay : m.play (before ++ start :: (more ++ later)) = (m.play (before ++ start :: more)).play later := by
    rw [← play_append]
    simp
  have hself : (m.play (before ++ start :: more)).Underway c :=
    Underway.before_play (hplay ▸ hc) (play_sound hm.sound _) hlt
  have hother := (hm.unreported_underway hterm hov (hu.earlier hpre) h).1
  exact hu.sequential _ hpre hother hself

/-! ### Failures agree on both paths -/

/-- In a run of a headless machine whose calls do not overlap, and in which no call is interrupted or gives up
waiting, a call that returns gives no action if and only if one of its own toolkit steps failed, and then the last
error is the text of exactly this failure; otherwise it gives an action, and the last error is what it was before
the call.

On a worker, however the threads interleave, a call is released without an answer, and returns through such a
release, only after the text of its failure was stored. -/
theorem failures_agree {m : Machine} (hm : m.Fresh) (hheadless : m.terminal = none) (hov : m.overrides = {})
    (moves : List Move) :
    (m.Reserved → Undisturbed m moves → ∀ before start during finish c o,
      before ++ start :: during ++ [finish] <+: moves → Starts c (m.play before) start →
      Gives c o (m.play (before ++ start :: during)) finish →
      (o = .noAction ↔ ∃ e, Happens m (before ++ start :: during) (Fails c e)) ∧
      (∀ e, Happens m (before ++ start :: during) (Fails c e) →
        (m.play (before ++ start :: during ++ [finish])).lastError = e.message) ∧
      (o ≠ .noAction → o.isAction = true ∧
        (m.play (before ++ start :: during ++ [finish])).lastError = (m.play before).lastError)) ∧
    (∀ mv c, (m.play moves).Executes mv (.release c) → ∃ e, Stored m moves c e) ∧
    ∀ mv c deadline (call : Call), (m.play moves).Executes mv (.await c deadline) →
      (m.play moves).calls[c]? = some call →
      Handoff.wait.check deadline (m.play moves).clock call.handoff = .ready → call.handoff.value = none →
      ∃ e, Stored m moves c e := by
  refine ⟨fun hreserved hu => ?_, fun mv c hx => hm.stored_of_release hheadless hov hx,
    fun mv c deadline call _ hc hready hnone => hm.stored_of_permit hheadless hov hc hnone (check_ready hready)⟩
  intro before start during finish c o hpre hstart hgives
  have hrun : Undisturbed m (before ++ start :: during) :=
    hu.earlier ((List.prefix_append _ [finish]).trans hpre)
  have hx := hgives.resolves
  have hunder : (m.play (before ++ start :: during)).Underway c :=
    ⟨hgives.1, .inr ⟨_, hx.mem_agenda, by simp [Instr.serves]⟩⟩
  obtain ⟨hfailed, hkept⟩ := hm.last_error hheadless hov hstart fun more hmore c' e h =>
    hm.reports_own hheadless hov hstart hrun hunder hmore h
  have hlast : (m.play (before ++ start :: during ++ [finish])).lastError =
      (m.play (before ++ start :: during)).lastError := by
    rw [play_concat]
    refine (step_lastError _ finish).2 fun e hreport => ?_
    cases hx.unique hreport
  generalize hr : before ++ start :: during = run at *
  have hverdict : .deactivate c o ∈ (m.play run).agenda ∨ .resolve c o ∈ (m.play run).agenda ∨
      (m.play run).returned? c = some o := .inr (.inl hx.mem_agenda)
  have hgiven : o = .noAction ∨ o.isAction = true := by
    have hraced := (hm.raced run).verdicts hverdict
    cases o with
    | interrupted => exact absurd (hraced.interrupted rfl).2.2 (hrun.uninterrupted c)
    | timedOut => exact absurd (hraced.timedOut rfl).2.2 (hrun.patient c)
    | noAction => exact .inl rfl
    | action1 | action2 | action3 => exact .inr rfl
  have hiff : o = .noAction ↔ ∃ e, Happens m run (Fails c e) := by
    constructor
    · rintro rfl
      exact hm.noAction_failed hheadless hov hreserved (hrun.uninterrupted c) (.inr hx.mem_agenda)
    · rintro ⟨e, hfails⟩
      refine hgiven.resolve_right fun haction => ?_
      have hrecorded := (hm.traced hheadless run).verdicts (.inr hx.mem_agenda) haction
      exact hm.failed_unanswered hheadless hov hfails _ hrecorded
  refine ⟨hiff, fun e hfails => ?_, fun hne => ⟨hgiven.resolve_left hne, ?_⟩⟩
  · rw [hlast]
    refine (hfailed e hfails).resolve_right fun hun => ?_
    exact (hm.unreported_underway hheadless hov hrun hun).2 o hx.mem_agenda
  · rw [hlast]
    exact hkept fun e hfails => hne (hiff.2 ⟨e, hfails⟩)

/-- A worker asks while the next dialog is going to fail, and then has the UI thread ask once more. -/
def failsOnce : Machine :=
  start [[.run .ui false], [.failNext (.render "no display"), .ask 0 (.caller 0), .post [.ask 0 (.caller 1)]]]
    [{ spec := saveSpec }] (.press .negative)

/-- The call of the worker, until it is about to be released. -/
def firstFails : List Move :=
  [.exec 0, .exec 1] ++ .exec 1 :: (List.replicate 4 (.exec 1) ++ List.replicate 5 (.exec 0))

/-- The rest of it, until it is about to return. -/
def firstRests : List Move := List.replicate 2 (.exec 0) ++ List.replicate 2 (.exec 1)

/-- The worker has returned, and the UI thread has taken its task. -/
def betweenCalls : List Move := firstFails ++ firstRests ++ [.exec 1] ++ [.exec 1, .exec 1, .exec 0]

/-- The call of the UI thread, until it is about to return. -/
def secondAnswered : List Move := betweenCalls ++ .exec 0 :: List.replicate 19 (.exec 0)

/-- No program of `failsOnce` signals anything. -/
lemma failsOnce_reserved : failsOnce.Reserved where
  signalled c := nofun
  programs := by
    intro o ho c hs
    have hsome : o = .run .ui false ∨ o = .failNext (.render "no display") ∨ o = .ask 0 (.caller 0) ∨
        o = .post [.ask 0 (.caller 1)] := by
      simpa [failsOnce, start, agenda, codes, load] using ho
    rcases hsome with rfl | rfl | rfl | rfl
    · cases hs with
      | body hb => cases hb
    · cases hs with
      | body hb => cases hb
    · cases hs with
      | body hb => cases hb
    · cases hs with
      | body hb ho hs =>
        cases hb
        obtain rfl := List.mem_singleton.1 ho
        cases hs with
        | body hb => cases hb

/-- One call of `failsOnce` has returned before the other one starts, and nothing interrupts or limits them. -/
lemma failsOnce_undisturbed : Undisturbed failsOnce (secondAnswered ++ [Move.exec 0]) where
  sequential := by
    have hsound := fun moves => play_sound (start_fresh ..).sound moves (m := failsOnce)
    have hone : (failsOnce.play (firstFails ++ firstRests ++ [Move.exec 1])).calls.length = 1 := by decide +kernel
    have htwo : (failsOnce.play (secondAnswered ++ [Move.exec 0])).calls.length = 2 := by decide +kernel
    have hreturned : (failsOnce.play (firstFails ++ firstRests ++ [Move.exec 1])).returned? 0 = some .noAction := by
      decide +kernel
    intro before hpre c c' hc hc'
    have hall : firstFails ++ firstRests ++ [Move.exec 1] <+: secondAnswered ++ [Move.exec 0] :=
      ⟨[Move.exec 1, .exec 1, .exec 0] ++ List.replicate 21 (Move.exec 0), by decide⟩
    rcases List.prefix_or_prefix_of_prefix hpre hall with hearly | hlate
    · have hle := hone ▸ (grows_later failsOnce hearly).calls_length
      have first : ∀ {c}, (failsOnce.play before).Underway c → c = 0 := fun h =>
        Nat.lt_one_iff.1 (Nat.lt_of_lt_of_le (h.lt (hsound before)) hle)
      rw [first hc, first hc']
    · have hle := htwo ▸ (grows_later failsOnce hpre).calls_length
      -- the first call is over
      have second : ∀ {c}, (failsOnce.play before).Underway c → c = 1 := by
        intro c h
        have hlt : c < 2 := Nat.lt_of_lt_of_le (h.lt (hsound before)) hle
        refine Nat.le_antisymm (Nat.lt_succ_iff.1 hlt) (Nat.pos_of_ne_zero ?_)
        rintro rfl
        obtain ⟨more, rfl⟩ := hlate
        rw [play_append] at h
        have hnone := (h.before_play (hsound _) (hone ▸ Nat.one_pos)).1
        rw [hreturned] at hnone
        cases hnone
      rw [second hc, second hc']
  uninterrupted := not_interrupts rfl (by decide +kernel)
  patient := not_givesUp (by decide +kernel)

/-- The worker gets no action, and the last error is the text of its failure, which was stored before the worker
was released and looked at its handoff; the UI thread gets an action, and leaves the last error alone. -/
theorem failures_agree_failsOnce :
    (∃ e, Stored failsOnce firstFails 0 e) ∧
    (∃ e, Stored failsOnce (firstFails ++ List.replicate 2 (.exec 0)) 0 e) ∧
    (∃ e, Happens failsOnce (firstFails ++ firstRests) (Fails 0 e) ∧
      (failsOnce.play (firstFails ++ firstRests ++ [.exec 1])).lastError = e.message) ∧
    (failsOnce.play (secondAnswered ++ [.exec 0])).returned? 1 = some .action2 ∧
    (failsOnce.play (secondAnswered ++ [.exec 0])).lastError = (failsOnce.play betweenCalls).lastError := by
  have hfresh : failsOnce.Fresh := start_fresh ..
  have hcalls := (failures_agree hfresh rfl rfl (secondAnswered ++ [.exec 0])).1 failsOnce_reserved
    failsOnce_undisturbed
  have hfirst := hcalls [.exec 0, .exec 1] (.exec 1)
    (List.replicate 4 (.exec 1) ++ List.replicate 5 (.exec 0) ++ firstRests) (.exec 1) 0 .noAction
    ⟨[.exec 1, .exec 1, .exec 0] ++ List.replicate 21 (.exec 0), by decide⟩
    ⟨by decide +kernel, by decide +kernel⟩ ⟨by decide +kernel, by decide +kernel⟩
  have hsecond := hcalls betweenCalls (.exec 0) (List.replicate 19 (.exec 0)) (.exec 0) 1 .action2
    List.prefix_rfl ⟨by decide +kernel, by decide +kernel⟩ ⟨by decide +kernel, by decide +kernel⟩
  have hreleases := (failures_agree hfresh rfl rfl firstFails).2.1 (.exec 0) 0 (executes_of_executed? rfl)
  have hlooks := (failures_agree hfresh rfl rfl (firstFails ++ List.replicate 2 (.exec 0))).2.2 (.exec 1) 0 none _
    (executes_of_executed? rfl) rfl rfl rfl
  obtain ⟨e, hfails⟩ := hfirst.1.1 rfl
  exact ⟨hreleases, hlooks, ⟨e, hfails, hfirst.2.1 e hfails⟩, by decide +kernel, (hsecond.2.2 (by decide)).2⟩

end MessageBox.Machine
