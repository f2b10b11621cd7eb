import MessageBox.Proofs.Isolation
import MessageBox.Proofs.Machine.Custody

/-!
# A call is released at most once

A call is settled through its dialog: the handler of a button records the answer, or the task that was refused the
dialog releases the call without one. Each settling has an activation or a refusal of the dialog behind it
(`Trusty.step_settles`, `Fresh.settled_le`), a call has one dialog, and a dialog is activated or refused but once.
So a call is released at most once, and where it was released without an answer, no handler of its dialog is ever
started (`released_at_most_once`).
-/

namespace MessageBox.Machine

/-- Whether an instruction releases a call: it records an answer where there is none, or releases the call without
one. -/
def Instr.frees (c : CallId) (m : Machine) : Instr → Bool
  | .complete c' code => c' == c && m.calls[c']?.any fun call => (call.handoff.complete code).1
  | .release c' => c' == c
  | _ => false

/-- What releases a call settles it. -/
lemma Instr.settles_of_frees {m : Machine} {c : CallId} {i : Instr} (h : i.frees c m = true) :
    i.settles c = true := by
  cases i with
  | complete c' code =>
    rw [Instr.frees, Bool.and_eq_true] at h
    exact h.1
  | release c' => exact h
  | _ => cases h

/-- What counts for less is counted less often. -/
lemma tally_mono {p q : Machine → Instr → Bool} (h : ∀ m i, p m i = true → q m i = true) (m : Machine)
    (moves : List Move) : m.tally p moves ≤ m.tally q moves := by
  induction moves generalizing m with
  | nil => exact Nat.le_refl _
  | cons mv moves ih =>
    have hmove : (m.executed? mv).toList.countP (p m) ≤ (m.executed? mv).toList.countP (q m) :=
      List.countP_mono_left fun i _ => h m i
    exact Nat.add_le_add hmove (ih _)

/-! ### Where settlings come from -/

/-- A handler settles a call at most once, and then by an answer to it. -/
lemma countP_settles_reaction (c : CallId) (reaction : Reaction) :
    reaction.code.countP (Instr.settles c) = 0 ∨
      reaction.code.countP (Instr.settles c) = 1 ∧ ∃ code, .complete c code ∈ reaction.code := by
  cases reaction with
  | script body =>
    refine .inl (List.countP_eq_zero.2 fun j hj hs => ?_)
    obtain ⟨o, -, rfl⟩ := mem_load.1 hj
    cases hs
  | answer c' code stops =>
    by_cases hc : c' = c
    · subst hc
      refine .inr ⟨?_, code, List.mem_cons_self ..⟩
      cases stops <;> simp [Reaction.code, Instr.settles]
    · left
      cases stops <;> simp [Reaction.code, Instr.settles, hc]

/-- A refused offer settles a call at most once, and then the call it was made for. -/
lemma countP_settles_refused (c : CallId) (e : ToolkitFailure) (origin : Origin) :
    (origin.refused e).countP (Instr.settles c) = 0 ∨
      (origin.refused e).countP (Instr.settles c) = 1 ∧ origin.call? = some c := by
  cases origin with
  | program => exact .inl rfl
  | nested c' => exact .inl rfl
  | posted c' =>
    by_cases hc : c' = c
    · subst hc
      exact .inr ⟨by simp [Origin.refused, Instr.settles], rfl⟩
    · exact .inl (by simp [Origin.refused, Instr.settles, hc])

/-- A settling of a call is put on the agenda by a press of its dialog, or by a refusal of it. -/
lemma DialogStep.settles {m : Machine} {i next sent dialogs pending events} (hm : m.Sound)
    (h : DialogStep m i next sent dialogs pending events) (c : CallId) :
    next.countP (Instr.settles c) + sent.countP (Instr.settles c) = 0 ∨
    ∃ d, m.caller? d = some c ∧ next.countP (Instr.settles c) + sent.countP (Instr.settles c) = 1 ∧
      0 < events.countP (Event.activates d) + [i].countP (Instr.turnsDown d m) := by
  have refused : ∀ {d o e}, m.dialogs[d]? = some o → i.turnsDown d m = true → next = o.origin.refused e →
      sent = [] → next.countP (Instr.settles c) + sent.countP (Instr.settles c) = 0 ∨
      ∃ d, m.caller? d = some c ∧ next.countP (Instr.settles c) + sent.countP (Instr.settles c) = 1 ∧
        0 < events.countP (Event.activates d) + [i].countP (Instr.turnsDown d m) := by
    rintro d o e ho hdown rfl rfl
    rcases countP_settles_refused c e o.origin with hzero | ⟨hone, hc⟩
    · exact .inl hzero
    · exact .inr ⟨d, by simp [Machine.caller?, ho, hc], hone, by simp [hdown]⟩
  have accepted : ∀ origin : Origin, origin.accepted.countP (Instr.settles c) = 0 := by
    intro origin
    refine List.countP_eq_zero.2 fun j hj hs => ?_
    obtain ⟨c', -, rfl⟩ := mem_accepted.1 hj
    cases hs
  cases h with
  | fail ho he => exact refused ho (by simp [Instr.turnsDown, he]) rfl rfl
  | closed ho hc => exact refused ho (by simp [Instr.turnsDown, hc]) rfl rfl
  | schedule _ _ =>
    left
    rw [List.countP_cons, accepted]
    rfl
  | keep _ => exact .inl (accepted _)
  | @press i d slot o reaction _ ho hr =>
    rcases countP_settles_reaction c reaction with hzero | ⟨hone, code, hcode⟩
    · exact .inl hzero
    · have hpressed : [Event.pressed d slot].countP (Event.activates d) = 1 := by simp [Event.activates]
      exact .inr ⟨d, hm.caller_of_complete ho hr hcode, hone, by omega⟩
  | other _ hnew =>
    left
    rw [← List.countP_append]
    refine List.countP_eq_zero.2 fun j hj => ?_
    simp [Instr.settles_of_apart (List.all_eq_true.1 hnew j hj) c]
  | _ => exact .inl rfl

/-- A release is put on the agenda where the dialog of the call is refused. -/
lemma DialogStep.release {m : Machine} {i next sent dialogs pending events} {c : CallId}
    (h : DialogStep m i next sent dialogs pending events) (hj : .release c ∈ next ∨ .release c ∈ sent) :
    ∃ d, m.caller? d = some c ∧ i.turnsDown d m = true := by
  have refused : ∀ {d o e}, m.dialogs[d]? = some o → .release c ∈ o.origin.refused e →
      m.caller? d = some c := by
    intro d o e ho hj
    have horigin : o.origin = .posted c := by simpa using hj
    simp [Machine.caller?, ho, horigin, Origin.call?]
  cases h with
  | fail ho he =>
    rcases hj with hj | hj
    · exact ⟨_, refused ho hj, by simp [Instr.turnsDown, he]⟩
    · cases hj
  | closed ho hc =>
    rcases hj with hj | hj
    · exact ⟨_, refused ho hj, by simp [Instr.turnsDown, hc]⟩
    · cases hj
  | other _ hnew =>
    have hmem : .release c ∈ next ++ sent := List.mem_append.2 hj
    have hapart : Instr.apart (.release c) = true := List.all_eq_true.1 hnew _ hmem
    cases hapart
  | _ => simp at hj

/-! ### Settlings along a run -/

/-- The balance of a move: of the settlings of a call, those that are new come from a press of its dialog or a
refusal of it. -/
lemma Trusty.step_settles {m : Machine} (h : m.Trusty) (mv : Move) (c : CallId) :
    (m.step mv).agenda.countP (Instr.settles c) + (m.executed? mv).toList.countP (Instr.settles c) ≤
      m.agenda.countP (Instr.settles c) ∨
    ∃ d, m.caller? d = some c ∧
      (m.step mv).agenda.countP (Instr.settles c) + (m.executed? mv).toList.countP (Instr.settles c) ≤
        m.agenda.countP (Instr.settles c) + 1 ∧
      m.deeds.countP (Event.activates d) <
        (m.step mv).deeds.countP (Event.activates d) + (m.executed? mv).toList.countP (Instr.turnsDown d m) := by
  rcases h.front.step_cases mv with ⟨t, i, rest, next, sent, m₁, -, hi, ht, hf, he⟩ | ⟨hq, hidle, -⟩
  · obtain ⟨events, hstep, hdeeds⟩ := hf.dialogStep ht h.bare
    have hagenda := hf.countP ht (Instr.settles c)
    have hdeeds : (m₁.goto t (next ++ rest)).deeds = m.deeds ++ events := hdeeds
    rw [he, hi, Option.toList_some, hagenda]
    rcases hstep.settles h.bare.sound c with hzero | ⟨d, hd, hone, hpos⟩
    · left
      omega
    · refine .inr ⟨d, hd, by omega, ?_⟩
      rw [hdeeds, List.countP_append]
      omega
  · left
    have hagenda := hq.agenda.countP_le (Instr.settles c)
    cases hi : m.executed? mv with
    | none => simpa using hagenda
    | some i => simpa [Instr.settles_of_apart (hidle i hi) c] using hagenda

/-- The settlings of a call so far: those on the agenda and those executed. -/
def settled (m : Machine) (moves : List Move) (c : CallId) : Nat :=
  (m.play moves).agenda.countP (Instr.settles c) + m.tally (fun _ => Instr.settles c) moves

/-- How often a dialog was activated or refused. -/
def ended (m : Machine) (moves : List Move) (d : DialogId) : Nat :=
  (m.play moves).deeds.countP (Event.activates d) + m.tally (Instr.turnsDown d) moves

/-- The settlings of a call have activations and refusals of its dialog behind them, and without a dialog there is
none. -/
lemma Fresh.settled_le {m : Machine} (hm : m.Fresh) (hterm : m.terminal = none) (hov : m.overrides = {})
    (moves : List Move) (c : CallId) :
    (∀ d, (m.play moves).caller? d = some c → m.settled moves c ≤ m.ended moves d) ∧
      ((∀ d, (m.play moves).caller? d ≠ some c) → m.settled moves c = 0) := by
  induction moves using List.reverseRecOn with
  | nil =>
    refine ⟨fun d hd => ?_, fun _ => ?_⟩
    · simp [Machine.caller?, play_nil, hm.dialogs] at hd
    · have hagenda : m.agenda.countP (Instr.settles c) = 0 := by
        refine List.countP_eq_zero.2 fun i hi hs => ?_
        obtain ⟨o, rfl⟩ := hm.agenda hi
        cases hs
      simp [settled, play_nil, tally, hagenda]
  | append_singleton moves mv ih =>
    have hgrows := step_grows (m.play moves) mv
    have hunique : ∀ {d d'}, (m.play (moves ++ [mv])).caller? d = some c →
        (m.play (moves ++ [mv])).caller? d' = some c → d = d' :=
      caller?_unique (hm.made_le_one (moves ++ [mv]) c)
    have hdeeds := fun d => hgrows.deeds.sublist.countP_le (p := Event.activates d)
    simp only [settled, ended, play_concat, tally_concat] at ih hunique ⊢
    rcases (play_trusty (hm.trusty hterm hov) moves).step_settles mv c with hle | ⟨d, hd, hle, hlt⟩
    · refine ⟨fun d hd => ?_, fun hnone => ?_⟩
      · by_cases hold : (m.play moves).caller? d = some c
        · have hbound := ih.1 d hold
          have := hdeeds d
          omega
        · -- the dialog is new, and the call had none before
          have hzero := ih.2 fun d' hd' => hold (hunique (hgrows.caller? hd') hd ▸ hd')
          omega
      · have hzero := ih.2 fun d hd => hnone d (hgrows.caller? hd)
        omega
    · refine ⟨fun d' hd' => ?_, fun hnone => absurd (hgrows.caller? hd) (hnone d)⟩
      obtain rfl := hunique (hgrows.caller? hd) hd'
      have hbound := ih.1 d hd
      omega

/-- A dialog is activated or refused, and that once. -/
lemma Fresh.ended_le_one {m : Machine} (hm : m.Fresh) (hterm : m.terminal = none) (hov : m.overrides = {})
    (moves : List Move) (d : DialogId) : m.ended moves d ≤ 1 := by
  have honce := hm.decided_once hterm hov moves d
  have hplaced := (hm.custody hterm hov moves d).2
  unfold placed at hplaced
  unfold ended
  omega

/-- Who is going to release a call without an answer was refused its dialog. -/
lemma Fresh.release_refused {m : Machine} (hm : m.Fresh) (hterm : m.terminal = none) (hov : m.overrides = {})
    (moves : List Move) {c : CallId} (h : .release c ∈ (m.play moves).agenda) :
    ∃ d, (m.play moves).caller? d = some c ∧ 0 < m.tally (Instr.turnsDown d) moves := by
  induction moves using List.reverseRecOn with
  | nil =>
    obtain ⟨o, ho⟩ := hm.agenda h
    cases ho
  | append_singleton moves mv ih =>
    have hgrows := step_grows (m.play moves) mv
    have htrusty := play_trusty (hm.trusty hterm hov) moves
    rw [play_concat] at h ⊢
    -- a release that was on the agenda has a refusal from before
    have old : .release c ∈ (m.play moves).agenda →
        ∃ d, ((m.play moves).step mv).caller? d = some c ∧ 0 < m.tally (Instr.turnsDown d) (moves ++ [mv]) := by
      intro hold
      obtain ⟨d, hd, hpos⟩ := ih hold
      exact ⟨d, hgrows.caller? hd, by rw [tally_concat]; omega⟩
    rcases htrusty.front.step_cases mv with ⟨t, i, rest, next, sent, m₁, -, hi, ht, hf, he⟩ | ⟨hq, -, -⟩
    · rcases hf.mem_agenda ht (he ▸ h) with hold | hnew
      · exact old hold
      · obtain ⟨events, hstep, -⟩ := hf.dialogStep ht htrusty.bare
        obtain ⟨d, hd, hdown⟩ := hstep.release hnew
        refine ⟨d, hgrows.caller? hd, ?_⟩
        rw [tally_concat, hi]
        simp [hdown]
    · exact old (hq.agenda.subset h)

/-- In every run, a call is released at most once, with an answer or without. It is released without one only after
its dialog was refused, and then no handler of its dialog is ever started. -/
theorem released_at_most_once {m : Machine} (hm : m.Fresh) (hheadless : m.terminal = none)
    (hov : m.overrides = {}) (c : CallId) :
    (∀ moves, m.tally (Instr.frees c) moves ≤ 1) ∧
    ∀ moves mv, (m.play moves).Executes mv (.release c) →
      ∃ d, (m.play moves).caller? d = some c ∧ 0 < m.tally (Instr.turnsDown d) moves ∧
        ∀ more t slot, (t, Event.pressed d slot) ∉ (m.play (moves ++ more)).history := by
  constructor
  · intro moves
    have hle : m.tally (Instr.frees c) moves ≤ m.tally (fun _ => Instr.settles c) moves :=
      tally_mono (fun _ _ => Instr.settles_of_frees) m moves
    obtain ⟨hdialog, hnone⟩ := hm.settled_le hheadless hov moves c
    unfold settled at hdialog hnone
    by_cases hd : ∃ d, (m.play moves).caller? d = some c
    · obtain ⟨d, hd⟩ := hd
      have hbound := hdialog d hd
      have hone := hm.ended_le_one hheadless hov moves d
      omega
    · have hzero := hnone fun d hcaller => hd ⟨d, hcaller⟩
      omega
  · rintro moves mv ⟨t, th, rest, -, ht, hcode, -⟩
    have hmem : .release c ∈ (m.play moves).agenda :=
      mem_agenda_of_code (codes_getElem? ht) (hcode ▸ List.mem_cons_self ..)
    obtain ⟨d, hd, hrefused⟩ := hm.release_refused hheadless hov moves hmem
    refine ⟨d, hd, hrefused, fun more t slot hpressed => ?_⟩
    have hnowhere := hm.refused_nowhere hheadless hov hrefused more
    have hdeed : Event.pressed d slot ∈ (m.play (moves ++ more)).deeds :=
      List.mem_filter.2 ⟨List.mem_map_of_mem (Array.mem_def.1 hpressed), rfl⟩
    have hpos : 0 < (m.play (moves ++ more)).deeds.countP (Event.activates d) :=
      List.countP_pos_iff.2 ⟨_, hdeed, by simp [Event.activates]⟩
    unfold placed at hnowhere
    omega

/-- A worker asks twice beside a thread that runs the loop. Its first dialog is pressed, its second one fails. -/
def refusedLater : Machine :=
  start [[.run .ui false], [.ask 0 (.caller 0), .failNext .closed, .ask 0 (.caller 1)], [.press none .positive]]
    [{ spec := saveSpec }] .manual

/-- The first call is answered. -/
def untilAnswer : List Move :=
  List.replicate 6 (.exec 1) ++ List.replicate 8 (.exec 0) ++ List.replicate 2 (.exec 2) ++
    List.replicate 4 (.exec 0)

/-- After that the second dialog is refused, and the failure is going to be reported. -/
def untilReport : List Move :=
  untilAnswer ++ (.exec 0 :: List.replicate 9 (.exec 1) ++ List.replicate 4 (.exec 0))

/-- The second call is released after its dialog was refused. -/
lemma refusedLater_releases : (refusedLater.play (untilReport ++ [Move.exec 0])).Executes (.exec 0) (.release 1) := by
  have hthreads : (refusedLater.play untilReport).threads =
      [⟨"", [.report .closed, .release 1, .wakeCall 1, .pump .ui, .returned .ui false], false, false⟩,
        ⟨"", [.await 1 none], false, false⟩, ⟨"", [], false, false⟩] := by cbv
  apply executes_of_executed?
  rw [play_concat]
  simp [executed?, step, exec, hthreads, execInstr, emit, goto]

/-- The first call is released with an answer, and never again; the second one is released without an answer, and
no handler of its dialog is ever started. -/
theorem released_at_most_once_refusedLater :
    refusedLater.tally (Instr.frees 0) untilAnswer = 1 ∧
    (∀ more, refusedLater.tally (Instr.frees 0) (untilAnswer ++ more) ≤ 1) ∧
    ∃ d, (refusedLater.play (untilReport ++ [.exec 0])).caller? d = some 1 ∧
      0 < refusedLater.tally (Instr.turnsDown d) (untilReport ++ [.exec 0]) ∧
      ∀ more t slot,
        (t, Event.pressed d slot) ∉ (refusedLater.play (untilReport ++ [.exec 0] ++ more)).history := by
  have hfresh : refusedLater.Fresh := start_fresh ..
  have hanswered : refusedLater.tally (Instr.frees 0) untilAnswer = 1 := by cbv
  have honce := (released_at_most_once hfresh rfl rfl 0).1
  have hrefused := (released_at_most_once hfresh rfl rfl 1).2
  exact ⟨hanswered, fun more => honce _, hrefused _ _ refusedLater_releases⟩

end MessageBox.Machine
