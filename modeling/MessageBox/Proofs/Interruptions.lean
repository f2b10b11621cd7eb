import MessageBox.Proofs.Machine.Active
import MessageBox.Proofs.Machine.Overlook

/-!
# Interruptions out of season

An interruption of a prompt touches the handoff of the call that is registered for it, which is one in progress,
and nothing else. Between the calls of a prompt there is none, and after the wait of a call is over nobody looks.
So interruptions at such moments may be put into a run or taken out of it (`Trims`): all calls return what they
return without them. The whole is `interruptions_reach_the_call_in_progress`.
-/

namespace MessageBox.Machine

/-- Whether a thread sleeps in its wait for a call, if this instruction comes next. -/
def Instr.awaits (c : CallId) : Instr → Bool
  | .await d _ => c == d
  | _ => false

/-- Somebody interrupts a prompt, and the call that this reaches is notified at once. That nobody was reached is
told of thread `t`. -/
def interruptNow (m : Machine) (t : ThreadId) (p : PromptId) : Machine :=
  match m.reach p with
  | some c => (m.modifyCall c Call.interrupted).wake (Instr.awaits c)
  | none => m.emit t .interruptIgnored

/-- What happens in a run into which others interrupt. -/
inductive Cue where
  | move (mv : Move)
  | interrupt (t : ThreadId) (p : PromptId)

/-- The machine after a cue. -/
def follow (m : Machine) : Cue → Machine
  | .move mv => m.step mv
  | .interrupt t p => m.interruptNow t p

/-- The machine after a run into which others interrupt. -/
def perform (m : Machine) (cues : List Cue) : Machine := cues.foldl follow m

/-- Every call of a prompt that is in progress has its wait behind it. Between calls, none is in progress. -/
def Unheeding (m : Machine) (p : PromptId) : Prop := ∀ c, m.InProgress p c → m.PastWait c

/-- Some interruptions of a run are left out, at moments when no call of their prompt heeds them. -/
inductive Trims : Machine → List Cue → List Cue → Prop where
  | nil {m} :
    Trims m [] []
  | keep {m cue cues cues'} :
    Trims (m.follow cue) cues cues' →
    Trims m (cue :: cues) (cue :: cues')
  | leaveOut {m t p cues cues'} :
    m.Unheeding p →
    Trims (m.interruptNow t p) cues cues' →
    Trims m (.interrupt t p :: cues) cues'

/-- No interruption needs to be left out. -/
lemma Trims.refl (m : Machine) (cues : List Cue) : Trims m cues cues := by
  induction cues generalizing m with
  | nil => exact .nil
  | cons cue cues ih => exact .keep (ih _)

/-- Interruptions may be left out of two parts of a run. -/
lemma Trims.append {m : Machine} {cues cues' more more' : List Cue} (h : Trims m cues cues')
    (h' : Trims (m.perform cues) more more') : Trims m (cues ++ more) (cues' ++ more') := by
  induction h with
  | nil => exact h'
  | keep _ ih => exact .keep (ih h')
  | leaveOut hp _ ih => exact .leaveOut hp (ih h')

/-! ### An interruption on a thread -/

/-- Who is awake is not woken up. -/
lemma wake_goto {m : Machine} {t : ThreadId} {th : Thread} (ht : m.threads[t]? = some th)
    (hawake : th.asleep = false) (p : Instr → Bool) (code rest : List Instr) :
    ((m.goto t code).wake p).goto t rest = (m.wake p).goto t rest := by
  have hthreads : (((m.threads.modify t fun th => { th with code }).map fun th =>
        if th.asleep && th.code.head?.any p then { th with asleep := false } else th).modify t
          fun th => { th with code := rest }) =
      (m.threads.map fun th => if th.asleep && th.code.head?.any p then { th with asleep := false } else th).modify t
        fun th => { th with code := rest } := by
    apply List.ext_getElem?
    intro u
    by_cases htu : t = u
    · subst htu
      simp [ht, hawake]
    · simp [htu]
  simp only [Machine.goto, Machine.wake, hthreads]

/-- A thread that interrupts a prompt, undisturbed by others, does what `interruptNow` says. -/
lemma play_interrupt {m : Machine} {t : ThreadId} {th : Thread} {p : PromptId} {rest : List Instr}
    (ht : m.threads[t]? = some th) (hcode : th.code = .op (.interrupt p) :: rest) (hawake : th.asleep = false) :
    m.play (if (m.reach p).isSome then [.exec t, .exec t] else [.exec t]) = (m.interruptNow t p).goto t rest := by
  have hstep : m.step (.exec t) = m.interrupt t p rest := step_awake ht hcode hawake
  cases hr : m.reach p with
  | none =>
    have hreach : m.prompts[p]?.bind (·.active) = none := hr
    simp [play, hstep, Machine.interrupt, hreach, interruptNow, hr]
  | some c =>
    have hreach : m.prompts[p]?.bind (·.active) = some c := hr
    have hsecond : (m.step (.exec t)).step (.exec t) =
        (((m.modifyCall c Call.interrupted).goto t (.wakeCall c :: rest)).wake (Instr.awaits c)).goto t rest := by
      have hthread : ((m.modifyCall c Call.interrupted).goto t (.wakeCall c :: rest)).threads[t]? =
          some { th with code := .wakeCall c :: rest } := by
        simp [Machine.goto, modifyCall, ht]
      have hinterrupt : m.interrupt t p rest =
          (m.modifyCall c Call.interrupted).goto t (.wakeCall c :: rest) := by
        simp only [Machine.interrupt, hreach]
        rfl
      rw [hstep, hinterrupt]
      exact step_awake hthread rfl hawake
    simp only [Option.isSome_some, if_true, play, List.foldl_cons, List.foldl_nil, hsecond, interruptNow, hr]
    exact wake_goto (m := m.modifyCall c Call.interrupted) ht hawake ..

/-! ### What an interruption leaves alone -/

/-- An interruption changes no code. -/
lemma interruptNow_codes (m : Machine) (t : ThreadId) (p : PromptId) : (m.interruptNow t p).codes = m.codes := by
  unfold interruptNow
  split
  · exact codes_wake ..
  · rfl

/-- An interruption changes nothing but threads, calls and history. -/
lemma interruptNow_eq (m : Machine) (t : ThreadId) (p : PromptId) :
    ∃ threads calls history, m.interruptNow t p = { m with threads, calls, history } := by
  unfold interruptNow
  split
  · exact ⟨_, _, _, rfl⟩
  · exact ⟨_, _, _, rfl⟩

/-- An interruption puts nothing on the agenda and takes nothing off it. -/
lemma interruptNow_agenda (m : Machine) (t : ThreadId) (p : PromptId) :
    (m.interruptNow t p).agenda = m.agenda := by
  obtain ⟨threads, calls, history, he⟩ := m.interruptNow_eq t p
  rw [agenda, agenda, interruptNow_codes, he]

/-- An interruption does not change whom later ones reach. -/
lemma interruptNow_reach (m : Machine) (t : ThreadId) (p q : PromptId) :
    (m.interruptNow t p).reach q = m.reach q := by
  obtain ⟨threads, calls, history, he⟩ := m.interruptNow_eq t p
  rw [he]
  rfl

/-- What a call is after an interruption: what it was, or interrupted, if it is the registered one. -/
lemma interruptNow_call (m : Machine) (t : ThreadId) (p : PromptId) (c : CallId) :
    (m.interruptNow t p).calls[c]? =
      if m.reach p = some c then m.calls[c]?.map Call.interrupted else m.calls[c]? := by
  unfold interruptNow
  split
  · next c' hr =>
    rw [hr]
    show (m.calls.modify c' Call.interrupted)[c]? = _
    rw [List.getElem?_modify]
    by_cases hc : c' = c
    · simp [hc]
    · simp [hc]
  · next hr =>
    rw [hr]
    simp [emit]

/-- A machine grows by an interruption. -/
lemma interruptNow_grows (m : Machine) (t : ThreadId) (p : PromptId) : m.Grows (m.interruptNow t p) where
  calls {c call} hc := by
    rw [interruptNow_call, hc]
    split
    · exact ⟨_, rfl, rfl, rfl, rfl, rfl, rfl, id⟩
    · exact ⟨_, rfl, .refl call⟩
  dialogs hd := by
    obtain ⟨threads, calls, history, he⟩ := m.interruptNow_eq t p
    rwa [he]
  history := by
    unfold interruptNow
    split
    · exact List.prefix_rfl
    · simp [emit]
  signalled hs := by
    obtain ⟨threads, calls, history, he⟩ := m.interruptNow_eq t p
    rwa [he]
  owner ho := by
    obtain ⟨threads, calls, history, he⟩ := m.interruptNow_eq t p
    rwa [he]

/-- Where a call after an interruption comes from. -/
lemma interruptNow_before {m : Machine} {t : ThreadId} {p : PromptId} {c : CallId} {call' : Call}
    (hc : (m.interruptNow t p).calls[c]? = some call') :
    ∃ call, m.calls[c]? = some call ∧ (call' = call ∨ call' = call.interrupted) := by
  rw [interruptNow_call] at hc
  split at hc
  · obtain ⟨call, hcall, rfl⟩ := Option.map_eq_some_iff.1 hc
    exact ⟨call, hcall, .inr rfl⟩
  · exact ⟨call', hc, .inl rfl⟩

/-- An interruption does not change which outcome a call has. -/
lemma interruptNow_returned? (m : Machine) (t : ThreadId) (p : PromptId) (c : CallId) :
    (m.interruptNow t p).returned? c = m.returned? c := by
  rw [returned?, returned?, interruptNow_call]
  split
  · cases m.calls[c]? <;> rfl
  · rfl

/-- An interruption brings no call into a context. -/
lemma interruptNow_in {m : Machine} {t : ThreadId} {p : PromptId} {x : Context} {c : CallId}
    (h : (m.interruptNow t p).In x c) : m.In x c := by
  obtain ⟨call', hc, rfl⟩ := h
  obtain ⟨call, hcall, rfl | rfl⟩ := interruptNow_before hc
  · exact ⟨_, hcall, rfl⟩
  · exact ⟨_, hcall, rfl⟩

/-- An interruption keeps a machine sound. -/
lemma interruptNow_sound {m : Machine} (hm : m.Sound) (t : ThreadId) (p : PromptId) :
    (m.interruptNow t p).Sound := by
  have hg := m.interruptNow_grows t p
  obtain ⟨threads, calls, history, he⟩ := m.interruptNow_eq t p
  constructor
  case agenda =>
    intro i hi
    rw [interruptNow_agenda] at hi
    exact hg.sound (hm.agenda i hi)
  case offers => exact fun hd => hg.offered (hm.offers (by simpa [he] using hd))
  case pending => exact fun d hd => Nat.lt_of_lt_of_le (hm.pending d (by simpa [he] using hd)) hg.dialogs_length
  case views =>
    intro stack hs v hv
    have hs' : m.terminal = some stack := by simpa [he] using hs
    obtain ⟨o, ho, hvo⟩ := hm.views hs' v hv
    exact ⟨o, hg.offered ho, hvo⟩
  case values =>
    intro c call' code hc hv
    obtain ⟨call, hcall, rfl | rfl⟩ := interruptNow_before hc
    · exact hg.answerable (hm.values hcall hv)
    · exact hg.answerable (hm.values hcall hv)

/-- An interruption keeps what is known of calls and their registration. -/
lemma interruptNow_ordered {m : Machine} (hm : m.Ordered) (t : ThreadId) (p : PromptId) :
    (m.interruptNow t p).Ordered where
  sound := interruptNow_sound hm.sound t p
  single c hc := by
    rw [interruptNow_agenda, interruptNow_returned?]
    exact hm.single c (interruptNow_in hc)
  sole c hc := by
    obtain ⟨threads, calls, history, he⟩ := m.interruptNow_eq t p
    have hserves : Instr.serves (m.interruptNow t p) c = Instr.serves m c := by
      funext i
      cases i <;> simp [Instr.serves, Instr.offers, caller?, he]
    rw [interruptNow_agenda, interruptNow_returned?, hserves]
    exact hm.sole c (interruptNow_in hc)
  heralded := by
    refine ⟨fun ht => (m.interruptNow_grows t p).heralds (hm.heralded.codes (interruptNow_codes m t p ▸ ht)), ?_⟩
    obtain ⟨threads, calls, history, he⟩ := m.interruptNow_eq t p
    rw [he]
    exact hm.heralded.queue
  registered {q c} hr := by
    rw [interruptNow_reach] at hr
    obtain ⟨hin, hresolve⟩ := hm.registered hr
    rw [interruptNow_agenda]
    refine ⟨(m.interruptNow_grows t p).inProgress hin ?_, hresolve⟩
    rw [interruptNow_returned?, hin.returned]

/-- A run into which others interrupt keeps calls and their registration in order. -/
lemma perform_ordered {m : Machine} (hm : m.Ordered) (cues : List Cue) : (m.perform cues).Ordered := by
  induction cues generalizing m with
  | nil => exact hm
  | cons cue cues ih =>
    cases cue with
    | move mv => exact ih (step_ordered mv hm)
    | interrupt t p => exact ih (interruptNow_ordered hm t p)

/-! ### Runs that differ in interruptions that nobody heeds -/

/-- The machines differ only in events of ignored interruptions and in interruptions of calls whose wait is
over. -/
def Alike (m m' : Machine) : Prop :=
  ∃ late : List CallId, (∀ c ∈ late, m.PastWait c) ∧ m.overlook late = m'.overlook late

/-- Every machine is like itself. -/
lemma Alike.refl (m : Machine) : m.Alike m := ⟨[], nofun, rfl⟩

/-- Machines that are alike stay so by the same move, as nobody looks at what they differ in. -/
lemma Alike.step {m m' : Machine} (h : m.Alike m') (mv : Move) : (m.step mv).Alike (m'.step mv) := by
  obtain ⟨late, hpast, he⟩ := h
  exact ⟨late, fun c hc => (hpast c hc).step mv, step_alike mv hpast he⟩

/-- In machines that are alike, calls have the same outcomes. -/
lemma Alike.returned? {m m' : Machine} (h : m.Alike m') (c : CallId) : m'.returned? c = m.returned? c := by
  obtain ⟨late, -, he⟩ := h
  have hsame : ∀ m : Machine, (m.overlook late).returned? c = m.returned? c := by
    intro m
    rw [Machine.returned?, Machine.returned?, overlook_calls]
    cases m.calls[c]? with
    | none => rfl
    | some call => dsimp only [Option.map_some, Option.bind_some]; split <;> rfl
  rw [← hsame m', ← he, hsame]

/-- A wait that is over stays so when somebody interrupts. -/
lemma PastWait.interruptNow {m : Machine} {c : CallId} (h : m.PastWait c) (t : ThreadId) (p : PromptId) :
    (m.interruptNow t p).PastWait c where
  made := Nat.lt_of_lt_of_le h.made (m.interruptNow_grows t p).calls_length
  waits := interruptNow_agenda m t p ▸ h.waits

/-- An interruption reaches the same call in both machines. -/
lemma Alike.interruptNow {m m' : Machine} (h : m.Alike m') (t : ThreadId) (p : PromptId) :
    (m.interruptNow t p).Alike (m'.interruptNow t p) := by
  obtain ⟨late, hpast, he⟩ := h
  refine ⟨late, fun c hc => (hpast c hc).interruptNow t p, ?_⟩
  have hsame : ∀ m : Machine, ((m.overlook late).interruptNow t p).overlook late =
      (m.interruptNow t p).overlook late := by
    intro m
    unfold Machine.interruptNow
    have hreach : (m.overlook late).reach p = m.reach p := rfl
    rw [hreach]
    split
    · next c _ =>
      rw [overlook_modifyCall Call.interrupted Call.interrupted fun call _ => by split <;> rfl, overlook_wake,
        overlook_overlook (List.Subset.refl _)]
    · rw [overlook_ignored, overlook_ignored, overlook_overlook (List.Subset.refl _)]
  rw [← hsame m, he, hsame]

/-- Nobody sleeps in a wait that is over. -/
lemma PastWait.wake {m : Machine} {c : CallId} (h : m.PastWait c) : m.wake (Instr.awaits c) = m := by
  have hnobody : ∀ th ∈ m.threads, th.code.head?.any (Instr.awaits c) = false := by
    intro th hth
    cases hcode : th.code with
    | nil => rfl
    | cons i rest =>
      obtain ⟨t, ht⟩ := List.mem_iff_getElem?.1 hth
      have hi : i ∈ m.agenda := mem_agenda_of_code (codes_getElem? ht) (hcode ▸ List.mem_cons_self ..)
      have hwaits := h.waits i hi
      cases i with
      | await d deadline =>
        have hd : d ≠ c := by simpa [Instr.waits] using hwaits
        simp [Instr.awaits, hd.symm]
      | _ => rfl
  have hthreads : (m.threads.map fun th =>
      if th.asleep && th.code.head?.any (Instr.awaits c) then { th with asleep := false } else th) = m.threads := by
    conv_rhs => rw [← List.map_id m.threads]
    refine List.map_congr_left fun th hth => ?_
    rw [hnobody th hth, Bool.and_false, if_neg Bool.false_ne_true, id]
  rw [Machine.wake, hthreads]

/-- An interruption that no call heeds makes no difference. -/
lemma Alike.unheeded {m m' : Machine} {t : ThreadId} {p : PromptId} (hm : m.Ordered) (h : m.Alike m')
    (hp : m.Unheeding p) : (m.interruptNow t p).Alike m' := by
  obtain ⟨late, hpast, he⟩ := h
  cases hr : m.reach p with
  | none =>
    refine ⟨late, fun c hc => (hpast c hc).interruptNow t p, ?_⟩
    rw [Machine.interruptNow, hr, overlook_ignored, he]
  | some c =>
    have hc : m.PastWait c := hp c (hm.registered hr).1
    refine ⟨c :: late, ?_, ?_⟩
    · intro d hd
      rcases List.mem_cons.1 hd with rfl | hd
      · exact hc.interruptNow t p
      · exact (hpast d hd).interruptNow t p
    · have hsub : late ⊆ c :: late := List.subset_cons_self ..
      rw [Machine.interruptNow, hr]
      dsimp only
      rw [← overlook_wake, overlook_interrupted (List.mem_cons_self ..), overlook_wake, hc.wake,
        ← overlook_overlook hsub, he, overlook_overlook hsub]

/-- Leaving interruptions out that nobody heeds leads to a machine that is alike. -/
lemma Trims.alike {m m' : Machine} {cues cues' : List Cue} (ht : Trims m cues cues') (hm : m.Ordered)
    (h : m.Alike m') : (m.perform cues).Alike (m'.perform cues') := by
  induction ht generalizing m' with
  | nil => exact h
  | @keep m cue cues cues' _ ih =>
    cases cue with
    | move mv => exact ih (step_ordered mv hm) (h.step mv)
    | interrupt t p => exact ih (interruptNow_ordered hm t p) (h.interruptNow t p)
  | leaveOut hp _ ih => exact ih (interruptNow_ordered hm _ _) (h.unheeded hm hp)

/-! ### Interruptions along a run -/

/-- What thread `t` makes of a machine by interrupting a prompt, with `rest` to do after that. -/
structure Contained (m : Machine) (t : ThreadId) (p : PromptId) (rest : List Instr) (m' : Machine) : Prop where
  /-- Between the calls of the prompt, the interruption is ignored. -/
  idle : (∀ c, ¬ m.InProgress p c) → m' = (m.emit t .interruptIgnored).goto t rest
  /-- It touches the handoff of a call in progress, if anything. -/
  reaches : m' = (m.emit t .interruptIgnored).goto t rest ∨
    ∃ c, m.InProgress p c ∧ m' = (m.modifyCall c Call.interrupted).goto t (.wakeCall c :: rest)
  /-- It does not touch the calls of other prompts. -/
  others : ∀ {c : CallId} {call : Call}, m.calls[c]? = some call → call.prompt ≠ p → m'.calls[c]? = some call
  /-- It does not touch which calls are registered. -/
  registered : ∀ q, m'.reach q = m.reach q

/-- An interruption by a program reaches the registered call of its prompt, or is ignored. -/
lemma Ordered.contained {m : Machine} (hm : m.Ordered) {t : ThreadId} {th : Thread} {p : PromptId}
    {rest : List Instr} (ht : m.threads[t]? = some th) (hcode : th.code = .op (.interrupt p) :: rest)
    (hawake : th.asleep = false) : Contained m t p rest (m.step (.exec t)) := by
  have hstep : m.step (.exec t) = m.interrupt t p rest := step_awake ht hcode hawake
  rw [hstep]
  cases hr : m.reach p with
  | none =>
    have hignored : m.interrupt t p rest = (m.emit t .interruptIgnored).goto t rest := by
      unfold Machine.interrupt
      rw [show m.prompts[p]?.bind (·.active) = none from hr]
    rw [hignored]
    exact ⟨fun _ => rfl, .inl rfl, fun hc _ => hc, fun _ => rfl⟩
  | some c =>
    have hin : m.InProgress p c := (hm.registered hr).1
    have hreached : m.interrupt t p rest = (m.modifyCall c Call.interrupted).goto t (.wakeCall c :: rest) := by
      unfold Machine.interrupt
      rw [show m.prompts[p]?.bind (·.active) = some c from hr]
      rfl
    rw [hreached]
    refine ⟨fun hidle => absurd hin (hidle c), .inr ⟨c, hin, rfl⟩, fun {d call} hd hp => ?_, fun _ => rfl⟩
    obtain ⟨call', hc, hp', -⟩ := hin
    have hcd : c ≠ d := by
      rintro rfl
      rw [hc] at hd
      cases hd
      exact hp hp'
    show (m.calls.modify c Call.interrupted)[d]? = some call
    rw [List.getElem?_modify, hd]
    simp [hcd]

/-- However the calls of prompts, what threads do and interruptions from outside interleave: no call is
registered for a prompt between its calls; what an interruption does is contained in a call of its prompt that is
in progress, and an interruption from outside does what that of an undisturbed thread does; and interruptions
that come between the calls of their prompt, or when these have their wait behind them, may be left out of the run
or put into it. All calls return the same then, and the machines differ in nothing but the events of ignored
interruptions and the interruptions of calls whose wait is over. -/
theorem interruptions_reach_the_call_in_progress {m : Machine} (hm : m.Fresh) (cues : List Cue) :
    (∀ p, (∀ c, ¬ (m.perform cues).InProgress p c) → (m.perform cues).reach p = none) ∧
    (∀ t th p rest, (m.perform cues).threads[t]? = some th → th.code = .op (.interrupt p) :: rest →
      th.asleep = false →
      Contained (m.perform cues) t p rest ((m.perform cues).step (.exec t)) ∧
      (m.perform cues).play (if ((m.perform cues).reach p).isSome then [.exec t, .exec t] else [.exec t]) =
        ((m.perform cues).interruptNow t p).goto t rest) ∧
    ∀ cues', Trims m cues cues' →
      (∀ c, (m.perform cues').returned? c = (m.perform cues).returned? c) ∧
      (m.perform cues).Alike (m.perform cues') := by
  have hordered := perform_ordered hm.ordered cues
  refine ⟨fun p hidle => ?_, fun t th p rest ht hcode hawake =>
    ⟨hordered.contained ht hcode hawake, play_interrupt ht hcode hawake⟩, fun cues' htrims => ?_⟩
  · cases hr : (m.perform cues).reach p with
    | none => rfl
    | some c => exact absurd (hordered.registered hr).1 (hidle c)
  · have halike := htrims.alike hm.ordered (.refl m)
    exact ⟨halike.returned?, halike⟩

/-- A thread runs the loop, and a worker asks twice and reports interruptions. -/
def askedTwice : Machine :=
  start [[.run .ui false], [.ask 0 (.caller 0), .ask 0 (.caller 1)]]
    [{ spec := saveSpec, options := { reportInterruption := true } }] (.byIndex 1)

/-- The two threads take turns. -/
def turns (rounds : Nat) : List Cue := (List.replicate rounds [.move (.exec 1), .move (.exec 0)]).flatten

/-- Both calls return their answers, although the first one is interrupted when it has its wait behind it, and
again when it has returned. -/
theorem interruptions_reach_the_call_in_progress_twice :
    (askedTwice.perform (turns 16 ++ .interrupt 0 0 :: (turns 2 ++ .interrupt 0 0 :: turns 20))).returned? 0 =
        some .action2 ∧
      (askedTwice.perform (turns 16 ++ .interrupt 0 0 :: (turns 2 ++ .interrupt 0 0 :: turns 20))).returned? 1 =
        some .action2 := by
  have hfresh : askedTwice.Fresh := start_fresh ..
  -- the first call has its wait behind it
  have hpast : (askedTwice.perform (turns 16)).Unheeding 0 := by
    have hlen : (askedTwice.perform (turns 16)).calls.length = 1 := by cbv
    have hwaits : ((askedTwice.perform (turns 16)).agenda.all fun i => !i.waits 0) = true := by cbv
    rintro c ⟨call, hc, -, -⟩
    have hlt : c < (askedTwice.perform (turns 16)).calls.length := (List.getElem?_eq_some_iff.1 hc).1
    obtain rfl : c = 0 := Nat.lt_one_iff.1 (hlen ▸ hlt)
    exact ⟨hlt, fun i hi => by simpa using List.all_eq_true.1 hwaits i hi⟩
  -- the first call has returned, and the second one has not started
  have hidle : (((askedTwice.perform (turns 16)).interruptNow 0 0).perform (turns 2)).Unheeding 0 := by
    have hlen : (((askedTwice.perform (turns 16)).interruptNow 0 0).perform (turns 2)).calls.length = 1 := by cbv
    have hreturned : (((askedTwice.perform (turns 16)).interruptNow 0 0).perform (turns 2)).returned? 0 =
        some .action2 := by cbv
    intro c hin
    obtain ⟨call, hc, -, -⟩ := id hin
    have hlt := (List.getElem?_eq_some_iff.1 hc).1
    obtain rfl : c = 0 := Nat.lt_one_iff.1 (hlen ▸ hlt)
    rw [hin.returned] at hreturned
    cases hreturned
  have htrims : Trims askedTwice (turns 16 ++ .interrupt 0 0 :: (turns 2 ++ .interrupt 0 0 :: turns 20))
      (turns 16 ++ (turns 2 ++ turns 20)) :=
    (Trims.refl ..).append (.leaveOut hpast ((Trims.refl ..).append (.leaveOut hidle (.refl ..))))
  obtain ⟨hsame, -⟩ := (interruptions_reach_the_call_in_progress hfresh _).2.2 _ htrims
  rw [← hsame 0, ← hsame 1]
  constructor <;> cbv

end MessageBox.Machine
