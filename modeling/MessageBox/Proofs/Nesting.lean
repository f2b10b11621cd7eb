import MessageBox.Proofs.Depth
import MessageBox.Proofs.ExitTokens
import MessageBox.Proofs.Machine.Phases

/-!
# Nested prompts

Calls on the UI thread that are started while others run the loop return in the reverse order of their starts,
because each is served on top of the run of the one before. A press of a button answers its call at once, but
the call may be far from the top of the stack then. The answer is recorded and the token of its run is
signalled (`Answering`), and once the run is on top again, five moves of its thread take the call home
(`Homeward`). The whole is `nested_prompts`.
-/

namespace MessageBox.Machine

/-- A button of the dialog of a call on the UI thread is pressed, which answers the call with `code`. -/
def PressAnswers (c : CallId) (code : Nat) (m : Machine) (mv : Move) : Prop :=
  ∃ i d slot o, m.Executes mv i ∧ i.press? = some (d, slot) ∧ m.dialogs[d]? = some o ∧
    o.dialog.press slot = .ok (.answer c code true)

/-- In this move a call returns. -/
def Resolves (c : CallId) (m : Machine) (mv : Move) : Prop :=
  m.returned? c = none ∧ (m.step mv).returned? c ≠ none

/-- A call runs the loop on a thread, with `top` on top of its run and `rest` below it. -/
def Pumps (m : Machine) (u : ThreadId) (c : CallId) (rest top : List Instr) : Prop :=
  m.Runs u (.call c) (.nestLeft c :: .collect c :: rest) top

/-- The answer to a call is on its way while something is on top of its run: the handler of the button, which
records it and signals the token, or what has interrupted the run since. -/
inductive Answering (m : Machine) (u : ThreadId) (c : CallId) (code : Nat) (rest : List Instr) : Prop where
  | completing {top} :
    m.Pumps u c rest (.complete c code :: .op (.signal (.call c)) :: top) →
    Answering m u c code rest
  | waking {top} :
    m.Recorded c code →
    m.Pumps u c rest (.wakeCall c :: .op (.signal (.call c)) :: top) →
    Answering m u c code rest
  | signalling {top} :
    m.Recorded c code →
    m.Pumps u c rest (.op (.signal (.call c)) :: top) →
    Answering m u c code rest
  | signalled {top} :
    m.Recorded c code →
    .call c ∈ m.loop.signalled →
    top ≠ [] →
    m.Pumps u c rest top →
    Answering m u c code rest

/-- A call that was answered is on its way home, and returns after `n` moves of its thread. -/
inductive Homeward (m : Machine) (u : ThreadId) (c : CallId) (code : Nat) (rest : List Instr) : Nat → Prop where
  | run :
    m.Recorded c code →
    .call c ∈ m.loop.signalled →
    m.Awake u →
    m.Pumps u c rest [] →
    Homeward m u c code rest 5
  | left :
    m.Recorded c code →
    m.Awake u →
    m.codes[u]? = some (.nestLeft c :: .collect c :: rest) →
    Homeward m u c code rest 4
  | collect :
    m.Recorded c code →
    m.Awake u →
    m.codes[u]? = some (.collect c :: rest) →
    Homeward m u c code rest 3
  | deactivate {o} :
    o.isAction = true →
    o.code = code →
    m.Awake u →
    m.codes[u]? = some (.deactivate c o :: rest) →
    Homeward m u c code rest 2
  | resolve {o} :
    o.isAction = true →
    o.code = code →
    m.Awake u →
    m.codes[u]? = some (.resolve c o :: rest) →
    Homeward m u c code rest 1
  | returned {o} :
    o.isAction = true →
    o.code = code →
    m.returned? c = some o →
    Homeward m u c code rest 0

/-! ### From the press to the call's own run -/

/-- A call that runs the loop has not returned. -/
lemma Pumps.not_returned {m : Machine} {u c rest top} (h : m.Pumps u c rest top) (hm : m.Sole)
    (hu : m.In .uiThread c) : m.returned? c = none :=
  hm.not_returned (i := .collect c) hu (mem_agenda_of_code h (by simp)) (by simp [Instr.serves])

/-- The instruction that records an answer finds none. -/
lemma Once.unanswered {m : Machine} (h : m.Once) {c : CallId} (hu : m.In .uiThread c) {i} (hi : i ∈ m.agenda)
    (ha : i.answers m c = true) : m.answer? c = none := by
  have hone := h c hu
  have hpos : 0 < m.agenda.countP (Instr.answers m c) := List.countP_pos_iff.2 ⟨i, hi, ha⟩
  cases hv : m.answer? c with
  | none => rfl
  | some code =>
    rw [hv] at hone
    simp only [Option.isSome_some, if_true] at hone
    omega

/-- What is on top of a call's run is executed there. -/
lemma Pumps.exec {m : Machine} {u c rest i top} (h : m.Pumps u c rest (i :: top))
    (hrun : ∀ token, i ≠ .pump token) (hpanic : i ≠ .op .panic) :
    m.step (.exec u) = m ∨ ∃ next sent m₁ code, Fires m u i next sent m₁ ∧ m.step (.exec u) = m₁.goto u code ∧
      (m.step (.exec u)).Pumps u c rest (next ++ top) := by
  rcases step_exec h with he | ⟨next, sent, m₁, hf, he⟩ | ⟨token, _, _, hi, -⟩ | ⟨hi, -⟩
  · exact .inl he
  · refine .inr ⟨next, sent, m₁, _, hf, he, ?_⟩
    rw [Pumps, Runs, he, List.append_assoc]
    exact codes_goto_self (hf.code h) _
  · exact absurd hi (hrun token)
  · exact absurd hi hpanic

/-- The handler of a button records its answer and signals the token of the call; from then on the call is
answered, whatever is on top of its run, until the run itself is on top. -/
lemma Answering.step {m : Machine} {u c code rest} (h : Answering m u c code rest) (hm : m.Modal)
    (hu : m.In .uiThread c) (mv : Move) (hcalm : ¬ TaskPanics m mv) :
    Answering (m.step mv) u c code rest ∨ Homeward (m.step mv) u c code rest 5 := by
  have hg := step_grows m mv
  by_cases hmv : mv = .exec u
  case neg =>
    cases h with
    | completing hp => exact .inl (.completing (codes_step_other hmv hp))
    | waking hr hp => exact .inl (.waking (hg.recorded hr) (codes_step_other hmv hp))
    | signalling hr hp => exact .inl (.signalling (hg.recorded hr) (codes_step_other hmv hp))
    | signalled hr hs htop hp =>
      exact .inl (.signalled (hg.recorded hr) (hg.signalled hs) htop (codes_step_other hmv hp))
  subst hmv
  cases h with
  | completing hp =>
    rcases hp.exec (by simp) (by simp) with he | ⟨next, sent, m₁, after, hf, he, hp'⟩
    · rw [he]
      exact .inl (.completing hp)
    · have hmem : .complete c code ∈ m.agenda := mem_agenda_of_code hp (List.mem_cons_self ..)
      cases hf with
      | complete hc hv =>
        refine .inl (.waking ?_ hp')
        rw [he]
        exact ⟨_, modifyCall_self hc _, by simp [Handoff.complete, hv]⟩
      | @completeAgain _ _ call hc hv =>
        have hnone := hm.once.unanswered hu hmem (by simp [Instr.answers])
        simp only [answer?, hc, Option.bind_some] at hnone
        rw [hnone] at hv
        cases hv
      | noCall hi hn => exact absurd hn ((hm.bare.sound.agenda _ hmem).call_ne_none hi)
      | noOffer hi _ => cases hi
  | waking hr hp =>
    rcases hp.exec (by simp) (by simp) with he | ⟨next, sent, m₁, after, hf, he, hp'⟩
    · rw [he]
      exact .inl (.waking hr hp)
    · cases hf with
      | wakeCall => exact .inl (.signalling (hg.recorded hr) hp')
      | noCall hi _ => cases hi
      | noOffer hi _ => cases hi
  | signalling hr hp =>
    rcases hp.exec (by simp) (by simp) with he | ⟨next, sent, m₁, after, hf, he, hp'⟩
    · rw [he]
      exact .inl (.signalling hr hp)
    · cases hf with
      | signal =>
        exact .inl (.signalled (hg.recorded hr) (he ▸ List.mem_cons_self ..) (List.cons_ne_nil _ _) hp')
      | post hi _ | postClosed hi _ => cases hi
      | noCall hi _ | noOffer hi _ => cases hi
  | @signalled top hr hs htop hp =>
    rcases step_runs hp (.exec u) with ⟨top', hp'⟩ | hret | hunw
    · cases top' with
      | nil =>
        -- the last of what was on top is gone, so the thread has moved and is awake
        have hawake : (m.step (.exec u)).Awake u := by
          refine awake_of_changed hp hp' fun he => htop (List.eq_nil_of_length_eq_zero ?_)
          have hlen := congrArg List.length he
          simp only [List.length_append, List.length_nil] at hlen
          omega
        exact .inr (.run (hg.recorded hr) (hg.signalled hs) hawake hp')
      | cons i top' => exact .inl (.signalled (hg.recorded hr) (hg.signalled hs) (List.cons_ne_nil _ _) hp')
    · -- the run is not on top
      have hruns := hret.runs
      rw [Runs, hp] at hruns
      have hlen := congrArg List.length (Option.some.inj hruns)
      simp only [List.length_append, List.length_nil] at hlen
      exact absurd (List.eq_nil_of_length_eq_zero (by omega)) htop
    · obtain ⟨-, ⟨behind, hpanic, -⟩, -⟩ := hunw
      exact absurd ⟨u, _, .call c, rfl, hpanic, by simp⟩ hcalm

/-! ### The way home -/

/-- A call on its way home keeps its place while others move. -/
lemma Homeward.other {m : Machine} {u c code rest n} (h : Homeward m u c code rest n) (hm : m.Modal)
    (hu : m.In .uiThread c) {mv : Move} (hmv : mv ≠ .exec u) : Homeward (m.step mv) u c code rest n := by
  have hg := step_grows m mv
  cases h with
  | run hr hs ha hp =>
    exact .run (hg.recorded hr) (hg.signalled hs) (step_awake_other hmv ha) (codes_step_other hmv hp)
  | left hr ha hcode => exact .left (hg.recorded hr) (step_awake_other hmv ha) (codes_step_other hmv hcode)
  | collect hr ha hcode =>
    exact .collect (hg.recorded hr) (step_awake_other hmv ha) (codes_step_other hmv hcode)
  | deactivate ho hc ha hcode => exact .deactivate ho hc (step_awake_other hmv ha) (codes_step_other hmv hcode)
  | resolve ho hc ha hcode => exact .resolve ho hc (step_awake_other hmv ha) (codes_step_other hmv hcode)
  | returned ho hc hr => exact .returned ho hc (hm.sole.returned hu hr mv)

/-- A call on its way home comes nearer with each move of its thread. -/
lemma Homeward.exec {m : Machine} {u c code rest n} (h : Homeward m u c code rest n) (hm : m.Modal)
    (hu : m.In .uiThread c) : Homeward (m.step (.exec u)) u c code rest (n - 1) := by
  have hg := step_grows m (.exec u)
  obtain ⟨call, hcall, -⟩ := id hu
  cases h with
  | run hr hs ha hp =>
    have hcode' := ((step_signalled hp hs).2.2 ha).after
    exact .left (hg.recorded hr) (awake_of_changed hp hcode' (by simp)) hcode'
  | left hr ha hcode =>
    have hstep : m.step (.exec u) = (m.emit u (.nestLeft c)).goto u (.collect c :: rest) := ha.exec hcode
    have hcode' : (m.step (.exec u)).codes[u]? = some (.collect c :: rest) := by
      rw [hstep]
      exact codes_goto_self (m := m.emit u (.nestLeft c)) hcode _
    exact .collect (hg.recorded hr) (awake_of_changed hcode hcode' (by simp)) hcode'
  | collect hr ha hcode =>
    have hv := hr.value_eq hcall
    have hstep : m.step (.exec u) = m.goto u (.deactivate c call.recorded :: rest) := by
      rw [ha.exec hcode]
      simp [execInstr, withCall, hcall]
    have hcode' : (m.step (.exec u)).codes[u]? = some (.deactivate c call.recorded :: rest) := by
      rw [hstep]
      exact codes_goto_self hcode _
    obtain ⟨haction, hvalue⟩ | ⟨-, hnone⟩ := hm.bare.sound.recorded hcall
    · have hcode'' : call.recorded.code = code := Option.some.inj (hvalue.symm.trans hv)
      exact .deactivate haction hcode'' (awake_of_changed hcode hcode' (by simp)) hcode'
    · rw [hv] at hnone
      cases hnone
  | @deactivate o ho hc ha hcode =>
    have hstep : m.step (.exec u) = (m.setActive call.prompt none).goto u (.resolve c o :: rest) := by
      rw [ha.exec hcode]
      simp [execInstr, withCall, hcall]
    have hcode' : (m.step (.exec u)).codes[u]? = some (.resolve c o :: rest) := by
      rw [hstep]
      exact codes_goto_self (m := m.setActive call.prompt none) hcode _
    exact .resolve ho hc (awake_of_changed hcode hcode' (by simp)) hcode'
  | @resolve o ho hc ha hcode =>
    refine .returned ho hc ?_
    rw [ha.exec hcode]
    simp [execInstr, withCall, hcall, returned?, goto, emit, modifyCall]
  | returned ho hc hr => exact .returned ho hc (hm.sole.returned hu hr _)

/-- Over a run, an answered call comes nearer with each move of its thread. -/
lemma Homeward.play {m : Machine} {u c code rest n} (h : Homeward m u c code rest n) (hm : m.Modal)
    (hu : m.In .uiThread c) (moves : List Move) :
    Homeward (m.play moves) u c code rest (n - moves.count (.exec u)) := by
  induction moves using List.reverseRecOn with
  | nil => exact h
  | append_singleton moves mv ih =>
    have hm' := play_modal hm moves
    have hu' := (play_grows m moves).in hu
    rw [play_concat, List.count_append]
    by_cases hmv : mv = .exec u
    · subst hmv
      rw [List.count_singleton_self, ← Nat.sub_sub]
      exact ih.exec hm' hu'
    · rw [List.count_singleton, if_neg (by simpa using hmv)]
      exact ih.other hm' hu' hmv

/-- Over a run without panicking tasks, the answer to a call stays on its way, or the call is on its way
home. -/
lemma Answering.play {m : Machine} {u c code rest} (h : Answering m u c code rest) (hm : m.Modal)
    (hu : m.In .uiThread c) {moves : List Move} (hcalm : ¬ Happens m moves TaskPanics) :
    Answering (m.play moves) u c code rest ∨ ∃ n, Homeward (m.play moves) u c code rest n := by
  induction moves using List.reverseRecOn with
  | nil => exact .inl h
  | append_singleton moves mv ih =>
    rw [happens_concat, not_or] at hcalm
    have hm' := play_modal hm moves
    have hu' := (play_grows m moves).in hu
    rw [play_concat]
    rcases ih hcalm.1 with ha | ⟨n, hh⟩
    · exact (ha.step hm' hu' mv hcalm.2).imp_right fun hh => ⟨5, hh⟩
    · by_cases hmv : mv = .exec u
      · exact .inr ⟨n - 1, hmv ▸ hh.exec hm' hu'⟩
      · exact .inr ⟨n, hh.other hm' hu' hmv⟩

/-- An answered call on its way home is on its thread, or it has returned the answer. -/
lemma Homeward.code {m : Machine} {u c code rest n} (h : Homeward m u c code rest n) :
    (∃ above, m.codes[u]? = some above ∧ ∃ i ∈ above, i.serves m c = true) ∨
      ∃ o, m.returned? c = some o ∧ o.isAction = true ∧ o.code = code := by
  cases h with
  | run _ _ _ hp => exact .inl ⟨_, hp, .collect c, by simp, by simp [Instr.serves]⟩
  | left _ _ hcode => exact .inl ⟨_, hcode, .collect c, by simp, by simp [Instr.serves]⟩
  | collect _ _ hcode | deactivate _ _ _ hcode | resolve _ _ _ hcode =>
    exact .inl ⟨_, hcode, _, List.mem_cons_self .., by simp [Instr.serves]⟩
  | returned ho hc hr => exact .inr ⟨_, hr, ho, hc⟩

/-- A call on its way home returns after at most five moves of its thread. -/
lemma Homeward.le {m : Machine} {u c code rest n} (h : Homeward m u c code rest n) : n ≤ 5 := by
  cases h <;> omega

/-- While the answer to a call is on its way, something is on top of the call's run. -/
lemma Answering.pumps {m : Machine} {u c code rest} (h : Answering m u c code rest) :
    ∃ i top, m.Pumps u c rest (i :: top) := by
  cases h with
  | completing hp => exact ⟨_, _, hp⟩
  | waking _ hp => exact ⟨_, _, hp⟩
  | signalling _ hp => exact ⟨_, _, hp⟩
  | @signalled top _ _ htop hp =>
    obtain ⟨i, top, rfl⟩ := List.exists_cons_of_ne_nil htop
    exact ⟨i, top, hp⟩

/-! ### Presses -/

/-- A call that a press of its dialog answers inside its run is made on the UI thread. -/
lemma PressAnswers.ui {m : Machine} {c code mv} (h : PressAnswers c code m mv) (hm : m.Sound) :
    m.In .uiThread c := by
  obtain ⟨i, d, slot, o, -, -, ho, hr⟩ := h
  cases hm.offers ho with
  | program =>
    obtain ⟨b, -, hb⟩ := programOffer_press hr
    cases hb
  | @call c' call hcall =>
    obtain ⟨code', -, hanswer⟩ := Call.offer_press hr
    injection hanswer with hc _ hstops
    subst hc
    exact ⟨call, hcall, by simpa using hstops.symm⟩

/-- A press of a button that the dialog has leaves the handler of the button. -/
lemma Executes.press {m : Machine} {mv i d slot o reaction} (h : m.Executes mv i)
    (hi : i.press? = some (d, slot)) (ho : m.dialogs[d]? = some o) (hr : o.dialog.press slot = .ok reaction) :
    ∃ t behind m₁, m.codes[t]? = some (i :: behind) ∧ Fires m t i reaction.code [] m₁ ∧
      m.step mv = m₁.goto t (reaction.code ++ behind) := by
  obtain ⟨t, behind, next, sent, m₁, hcode, hf, he⟩ : ∃ t behind next sent m₁,
      m.codes[t]? = some (i :: behind) ∧ Fires m t i next sent m₁ ∧ m.step mv = m₁.goto t (next ++ behind) := by
    cases i with
    | pressTaken | pressChosen => exact h.fires (by simp [execInstr]) (by simp) (by simp)
    | _ => cases hi
  obtain ⟨rfl, ⟨o', reaction', ho', hr', rfl⟩ | ⟨hmissing, -⟩⟩ := hf.press_cases hi
  · rw [ho] at ho'
    cases ho'
    rw [hr] at hr'
    cases hr'
    exact ⟨t, behind, m₁, hcode, hf, he⟩
  · exact absurd hr (hmissing o reaction ho)

/-- No step of a call itself is a press. -/
lemma Phase.ofPress {m : Machine} {c : CallId} {taken i behind} (h : Phase m c taken (i :: behind)) :
    i.ofPress = false := by
  cases h with
  | offering ho _ => cases i <;> first | rfl | cases ho
  | _ => rfl

/-- A press puts the handler of the button on top of the run of its call. -/
lemma PressAnswers.answering {m : Machine} {c code mv} (h : PressAnswers c code m mv) (hm : m.Modal)
    {u rest taken} (hs : Serving m u c rest taken) : Answering (m.step mv) u c code rest := by
  obtain ⟨i, d, slot, o, hexec, hpress, ho, hr⟩ := h
  have hofPress : i.ofPress = true := by cases i <;> first | rfl | cases hpress
  obtain ⟨t, behind, m₁, hcode, hf, he⟩ := hexec.press hpress ho hr
  have howner := hm.pressed hcode (List.mem_cons_self ..) hofPress
  rw [hs.owner] at howner
  cases howner
  cases hs.course with
  | @phase _ frame hphase hcode' =>
    obtain ⟨j, frame, rfl⟩ : ∃ j behind, frame = j :: behind := by cases hphase <;> exact ⟨_, _, rfl⟩
    rw [hcode] at hcode'
    cases hcode'
    rw [hphase.ofPress] at hofPress
    cases hofPress
  | @pumping top _ hruns =>
    rw [Runs, hcode] at hruns
    cases top with
    | nil =>
      cases hruns
      cases hofPress
    | cons j top =>
      cases hruns
      rw [he]
      exact .completing (codes_goto_self (hf.code hcode) _)

/-- The run of a call is at one place. -/
lemma Sole.pumps {m : Machine} (h : m.Sole) {c : CallId} (hu : m.In .uiThread c) {u u' rest rest' top}
    (hp : m.Pumps u c rest top) (hp' : m.Pumps u' c rest' []) : u' = u ∧ top = [] := by
  have hcollect : (Instr.collect c).serves m c = true := by simp [Instr.serves]
  obtain rfl := h.thread hu hp' (i := .collect c) (by simp) hcollect hp (j := .collect c) (by simp) hcollect
  refine ⟨rfl, ?_⟩
  have hcode := hp
  rw [Pumps, Runs, hp'] at hp
  rcases top with - | ⟨first, - | ⟨second, - | ⟨third, top⟩⟩⟩
  · rfl
  · cases hp
  · cases hp
  · -- the call would go on with two instructions of the thread
    cases hp
    have hbelow := h.apart hu hcode (i := .collect c) (by simp) hcollect (j := .collect c) (by simp)
    rw [hcollect] at hbelow
    cases hbelow

/-! ### Nested prompts -/

/-- A call that a thread has to serve has not returned. -/
lemma Serving.not_returned {m : Machine} {u c rest taken} (h : Serving m u c rest taken) (hm : m.Sole) :
    m.returned? c = none := by
  obtain ⟨above, hcode, i, hi, his⟩ := h.course.code
  exact hm.not_returned h.ui (mem_agenda_of_code hcode (List.mem_append_left _ hi)) his

/-- A call whose dialog the toolkit has taken, and that has returned, has entered its nested run once and left
it once. -/
lemma entered_and_left_once {m : Machine} (hm : m.Modal) (hcalls : m.calls = []) {moves : List Move}
    (hcalm : ¬ Happens m moves TaskPanics) {c : CallId} (hu : (m.play moves).In .uiThread c)
    (hret : (m.play moves).returned? c ≠ none) (htakes : Happens m moves (Takes c)) :
    (m.play moves).entries c = 1 ∧ (m.play moves).exits c = 1 := by
  obtain ⟨before, mv, ⟨more, rfl⟩, ht⟩ := htakes
  rw [happens_append, happens_append, not_or, not_or] at hcalm
  have hm₀ := play_modal hm before
  have hu₀ : (m.play before).In .uiThread c := by
    obtain ⟨i, -, d, hd, -⟩ := ht
    rw [List.append_assoc, play_append] at hu
    exact (play_grows ..).in_before (hm₀.bare.sound.caller_lt hd) hu
  have hserving : ∃ u rest, Serving (m.play (before ++ [mv])) u c rest true := by
    rw [play_concat]
    rcases play_serving hm hcalls hcalm.1.1 hu₀ with ⟨u, rest, taken, hs⟩ | hs
    · exact ⟨u, rest, hs.takes hm₀ ht⟩
    · -- the call goes on, so it has not returned
      obtain ⟨i, ⟨t, th, behind, -, hth, hcode, -⟩, htd⟩ := ht
      have hmem : i ∈ (m.play before).agenda :=
        mem_agenda_of_code (hcode ▸ codes_getElem? hth) (List.mem_cons_self ..)
      have hnone := hm₀.sole.not_returned hu₀ hmem (Instr.serves_of_offers htd.offers)
      have hsome := hs.returned
      rw [hnone] at hsome
      cases hsome
  obtain ⟨u, rest, hs⟩ := hserving
  have hm₁ := play_modal hm (before ++ [mv] ++ more)
  rw [play_append] at hret ⊢
  rw [play_append] at hm₁
  rcases hs.play (play_modal hm _) hcalm.2 with ⟨taken, -, hs'⟩ | hd
  · exact absurd (hs'.not_returned hm₁.sole) hret
  · obtain ⟨hentries, hexits⟩ := hd.nested rfl
    have hle := (hm₁.entered c).1
    exact ⟨hentries, by omega⟩

/-- A call that starts is served above the code behind the operation that asks, until it returns to it. -/
lemma Asks.play {m : Machine} {u c mv} (h : Asks u c m mv) (hm : m.Modal) :
    m.loop.owner = some u ∧ ∃ prompt ticket rest, m.codes[u]? = some (.op (.ask prompt ticket) :: rest) ∧
      ∀ {more last}, ¬ Happens m (mv :: more ++ [last]) TaskPanics →
        (m.play (mv :: more)).returned? c = none →
        (∃ taken, Serving (m.play (mv :: more ++ [last])) u c rest taken) ∨
          (m.play (mv :: more ++ [last])).codes[u]? = some rest := by
  obtain ⟨howner, prompt, ticket, rest, hcode, hs⟩ := h.serving hm
  refine ⟨howner, prompt, ticket, rest, hcode, fun {more last} hcalm hnone => ?_⟩
  rw [happens_concat, not_or, ← List.singleton_append, happens_append, not_or] at hcalm
  rw [play_concat]
  have hm' : (m.play ([mv] ++ more)).Modal := play_modal hm _
  rcases hs.play (step_modal mv hm) hcalm.1.2 with ⟨taken, -, hs'⟩ | hd
  · rcases Serving.step (m := m.play ([mv] ++ more)) hs' hm' last hcalm.2 with ⟨taken', -, hs''⟩ | ⟨hrest, -⟩
    · exact .inl ⟨taken', hs''⟩
    · exact .inr hrest
  · have hsome : ((m.play (mv :: more)).returned? c).isSome = true := hd.returned
    rw [hnone] at hsome
    cases hsome

/-- A call that was started while another runs the loop has returned before that one returns. -/
lemma returned_before {m : Machine} (hm : m.Modal) {u t outer inner rest top mv more last}
    (hcalm : ¬ Happens m (mv :: more ++ [last]) TaskPanics) (hui : m.In .uiThread outer)
    (hp : m.Pumps u outer rest top) (hasks : Asks t inner m mv)
    (hres : Resolves outer (m.play (mv :: more)) last) : (m.play (mv :: more)).returned? inner ≠ none := by
  intro hnone
  obtain ⟨howner, prompt, ticket, behind, hcode, hplay⟩ := hasks.play hm
  rw [hp.owner hm.tidy] at howner
  cases howner
  -- the run of the outer call is below what asks, and stays there while the inner call is served
  have hcollect : .collect outer ∈ behind := by
    rw [Pumps, Runs, hcode] at hp
    cases top with
    | nil => cases hp
    | cons i top =>
      cases hp
      simp
  have hmem : .collect outer ∈ (m.play (mv :: more ++ [last])).agenda := by
    rcases hplay hcalm hnone with ⟨taken, hs⟩ | hrest
    · obtain ⟨above, habove, -⟩ := hs.course.code
      exact mem_agenda_of_code habove (List.mem_append_right _ hcollect)
    · exact mem_agenda_of_code hrest hcollect
  have houter := (play_modal hm (mv :: more ++ [last])).sole.not_returned ((play_grows ..).in hui) hmem
    (by simp [Instr.serves])
  rw [play_concat] at houter
  exact hres.2 houter

/-- A call leaves the depth of the loop as it was. -/
lemma depth_restored {m : Machine} (hm : m.Modal) (hc : m.Counted) {u c mv more last}
    (hcalm : ¬ Happens m (mv :: more ++ [last]) TaskPanics) (hasks : Asks u c m mv)
    (hres : Resolves c (m.play (mv :: more)) last) :
    (m.play (mv :: more ++ [last])).loop.depth = m.loop.depth := by
  obtain ⟨howner, prompt, ticket, behind, hcode, hplay⟩ := hasks.play hm
  have hm' := play_modal hm (mv :: more ++ [last])
  have howner' := (play_grows m (mv :: more ++ [last])).owner howner
  rcases hplay hcalm hres.1 with ⟨taken, hs⟩ | hrest
  · have hnone := hs.not_returned hm'.sole
    rw [play_concat] at hnone
    exact absurd hnone hres.2
  · rw [(play_counted hc _).depth hm'.tidy howner' hrest, hc.depth hm.tidy howner hcode]
    exact (pumps_cons rfl behind).symm

/-- A call whose button was pressed returns the answer of that press, and does so when its run is on top
again. -/
lemma pressed_returned {m : Machine} (hm : m.Modal) {u c rest taken code mv more}
    (hs : Serving m u c rest taken) (hpress : PressAnswers c code m mv)
    (hcalm : ¬ Happens m (mv :: more) TaskPanics) :
    (∀ o, (m.play (mv :: more)).returned? c = some o → o.isAction = true ∧ o.code = code) ∧
    ∀ u' rest' later, (m.play (mv :: more)).Pumps u' c rest' [] → 5 ≤ later.count (.exec u') →
      ∃ o, ((m.play (mv :: more)).play later).returned? c = some o ∧ o.isAction = true ∧ o.code = code := by
  rw [← List.singleton_append, happens_append, not_or] at hcalm
  have hm' : (m.play (mv :: more)).Modal := play_modal hm _
  have hu : (m.play (mv :: more)).In .uiThread c := (play_grows ..).in hs.ui
  have hplay : Answering (m.play (mv :: more)) u c code rest ∨
      ∃ n, Homeward (m.play (mv :: more)) u c code rest n :=
    (hpress.answering hm hs).play (step_modal mv hm) ((step_grows m mv).in hs.ui) hcalm.2
  constructor
  · intro o hr
    rcases hplay with ha | ⟨n, hh⟩
    · obtain ⟨i, top, hp⟩ := ha.pumps
      rw [hp.not_returned hm'.sole hu] at hr
      cases hr
    · rcases hh.code with ⟨above, hcode, i, hi, his⟩ | ⟨o', hr', ho⟩
      · rw [hm'.sole.not_returned hu (mem_agenda_of_code hcode hi) his] at hr
        cases hr
      · rw [hr] at hr'
        cases hr'
        exact ho
  · intro u' rest' later hp' hlater
    rcases hplay with ha | ⟨n, hh⟩
    · obtain ⟨i, top, hp⟩ := ha.pumps
      cases (hm'.sole.pumps hu hp hp').2
    · rcases hh.code with ⟨above, hcode, i, hi, his⟩ | ⟨o, hr, -⟩
      · obtain rfl := hm'.sole.thread hu hcode hi his hp' (j := .collect c) (by simp) (by simp [Instr.serves])
        have hhome := hh.play hm' hu later
        have hle := hh.le
        have hzero : n - later.count (.exec u) = 0 := by omega
        rw [hzero] at hhome
        cases hhome with
        | returned ho hc hr => exact ⟨_, hr, ho, hc⟩
      · rw [hp'.not_returned hm'.sole hu] at hr
        cases hr

/-- On a headless machine without overrides, in every run in which no task panics, whatever prompts are shown by
tasks and handlers on the UI thread, and in whatever order their dialogs are pressed: a call that has returned,
and whose dialog the toolkit had taken, has entered its nested run once and left it once. A call that was
started while another one runs the loop has returned before that one returns. The depth of the loop after a
call is what it was before. And a call whose button was pressed returns the action of that press, however many
calls are on top of its run; it has done so after five moves of its thread from when its run is on top
again. -/
theorem nested_prompts {m : Machine} (hm : m.Fresh) (hheadless : m.terminal = none) (hov : m.overrides = {})
    (hdepth : m.loop.depth = 0) (moves : List Move) (hcalm : ¬ Happens m moves TaskPanics) :
    (∀ c, (m.play moves).In .uiThread c → (m.play moves).returned? c ≠ none → Happens m moves (Takes c) →
      (m.play moves).entries c = 1 ∧ (m.play moves).exits c = 1) ∧
    (∀ before mv more last u t outer inner rest top, before ++ (mv :: more ++ [last]) <+: moves →
      (m.play before).Pumps u outer rest top → Asks t inner (m.play before) mv →
      Resolves outer (m.play (before ++ mv :: more)) last →
      (m.play (before ++ mv :: more)).returned? inner ≠ none) ∧
    (∀ before mv more last u c, before ++ (mv :: more ++ [last]) <+: moves → Asks u c (m.play before) mv →
      Resolves c (m.play (before ++ mv :: more)) last →
      (m.play (before ++ (mv :: more ++ [last]))).loop.depth = (m.play before).loop.depth) ∧
    (∀ before mv more c code, before ++ mv :: more <+: moves → PressAnswers c code (m.play before) mv →
      (m.play before).returned? c = none →
      (∀ o, (m.play (before ++ mv :: more)).returned? c = some o → o.isAction = true ∧ o.code = code) ∧
      ∀ u rest later, (m.play (before ++ mv :: more)).Pumps u c rest [] → 5 ≤ later.count (.exec u) →
        ∃ o, (m.play (before ++ mv :: more ++ later)).returned? c = some o ∧
          o.isAction = true ∧ o.code = code) := by
  have hmodal := hm.modal hheadless hov
  have calm : ∀ {before after}, before ++ after <+: moves →
      ¬ Happens m before TaskPanics ∧ ¬ Happens (m.play before) after TaskPanics := by
    rintro before after ⟨rest, rfl⟩
    rw [happens_append, happens_append] at hcalm
    exact ⟨fun h => hcalm (.inl (.inl h)), fun h => hcalm (.inl (.inr h))⟩
  refine ⟨fun c hu hret htakes => entered_and_left_once hmodal hm.calls hcalm hu hret htakes,
    fun before mv more last u t outer inner rest top hpre hp hasks hres => ?_,
    fun before mv more last u c hpre hasks hres => ?_, fun before mv more c code hpre hpress hnone => ?_⟩
  · rw [play_append] at hres ⊢
    have hm' := play_modal hmodal before
    have hui : (m.play before).In .uiThread outer :=
      hm'.bare.sound.agenda (.nestLeft outer) (mem_agenda_of_code hp (by simp))
    exact returned_before hm' (calm hpre).2 hui hp hasks hres
  · rw [play_append] at hres ⊢
    have hcounted := play_counted (hm.counted hdepth) before
    exact depth_restored (play_modal hmodal before) hcounted (calm hpre).2 hasks hres
  · have hm' := play_modal hmodal before
    simp only [play_append]
    rcases play_serving hmodal hm.calls (calm hpre).1 (hpress.ui hm'.bare.sound) with ⟨u, rest, taken, hs⟩ | hd
    · exact pressed_returned hm' hs hpress (calm hpre).2
    · have hsome := hd.returned
      rw [hnone] at hsome
      cases hsome

/-- A task that panics is a panic that the move finds. -/
lemma TaskPanics.findsPanic {m : Machine} {mv : Move} (h : TaskPanics m mv) : m.findsPanic mv = true := by
  obtain ⟨t, rest, token, rfl, hcode, -⟩ := h
  simp [Machine.findsPanic, hcode]

/-- A task asks while a prompt is shown, then the dialog of the first prompt is pressed, and then that of the
second one. -/
def outerFirst : Machine :=
  start [[.bind, .post [.ask 0 (.caller 1)], .press (some 0) .negative, .press none .positive,
      .ask 0 (.caller 0)]]
    [{ spec := saveSpec }] .manual

/-- Moves of the only thread. -/
def solo (n : Nat) : List Move := List.replicate n (.exec 0)

/-- A call has the context that stands in its place. -/
lemma In.of_contexts {m : Machine} {x : Context} {c : CallId} (h : (m.calls.map (·.context))[c]? = some x) :
    m.In x c := by
  obtain ⟨call, hcall, hcontext⟩ := Option.map_eq_some_iff.1 (List.getElem?_map .. ▸ h)
  exact ⟨call, hcall, hcontext⟩

/-- The only thread of a machine executes its next instruction if it is awake. -/
lemma Executes.of_threads {m : Machine} {i rest} (h : m.threads = [⟨"", i :: rest, false, false⟩]) :
    m.Executes (.exec 0) i :=
  ⟨0, _, rest, rfl, by rw [h]; rfl, rfl, rfl⟩

/-- The first prompt is asked. -/
lemma outerFirst_asks : Asks 0 0 (outerFirst.play (solo 7)) (.exec 0) :=
  ⟨rfl, rfl, .of_contexts rfl⟩

/-- The toolkit takes the dialog of the first prompt. -/
lemma outerFirst_takes : Takes 0 (outerFirst.play (solo 14)) (.exec 0) :=
  ⟨.keep 0, .of_threads rfl, 0, rfl, .inl rfl⟩

/-- The second prompt is asked inside the run of the first one. -/
lemma outerFirst_asks_inner : Asks 0 1 (outerFirst.play (solo 17)) (.exec 0) :=
  ⟨rfl, rfl, .of_contexts rfl⟩

/-- The dialog of the first prompt is pressed. -/
lemma outerFirst_presses : PressAnswers 0 2 (outerFirst.play (solo 28)) (.exec 0) := by
  have hpress : ((outerFirst.play (solo 28)).dialogs.map (·.dialog.press .negative))[0]? =
      some (Except.ok (Reaction.answer 0 2 true)) := rfl
  obtain ⟨o, ho, hpressed⟩ := Option.map_eq_some_iff.1 (List.getElem?_map .. ▸ hpress)
  exact ⟨.pressTaken 0 0 .negative, 0, .negative, o, .of_threads rfl, rfl, ho, hpressed⟩

/-- The first prompt returns, after the second one. -/
lemma outerFirst_resolves : Resolves 0 (outerFirst.play (solo 49)) (.exec 0) := by
  have hreturned : ((outerFirst.play (solo 49)).step (.exec 0)).returned? 0 = some .action2 := by
    decide +kernel
  exact ⟨by decide +kernel, by simp [hreturned]⟩

/-- The inner call has returned before the outer one does, although the outer one was answered first, and the
outer one returns its answer. -/
theorem nested_prompts_outerFirst :
    ((outerFirst.play (solo 50)).entries 0 = 1 ∧ (outerFirst.play (solo 50)).exits 0 = 1) ∧
    (outerFirst.play (solo 17 ++ .exec 0 :: solo 31)).returned? 1 ≠ none ∧
    (outerFirst.play (solo 7 ++ (.exec 0 :: solo 41 ++ [.exec 0]))).loop.depth =
      (outerFirst.play (solo 7)).loop.depth ∧
    ∃ o, (outerFirst.play (solo 28 ++ .exec 0 :: solo 16 ++ solo 5)).returned? 0 = some o ∧
      o.isAction = true ∧ o.code = 2 := by
  have hcalm : outerFirst.panicFree (solo 50) = true := rfl
  have hui : (outerFirst.play (solo 50)).In .uiThread 0 := .of_contexts rfl
  have hpumps : (outerFirst.play (solo 17)).codes[0]? =
      some [.op (.ask 0 (.caller 1)), .pump (.call 0), .nestLeft 0, .collect 0] := rfl
  have hopen : (outerFirst.play (solo 28)).returned? 0 = none := rfl
  have hpumps' : (outerFirst.play (solo 28 ++ .exec 0 :: solo 16)).codes[0]? =
      some [.pump (.call 0), .nestLeft 0, .collect 0] := rfl
  have hlast : outerFirst.play (solo 50) = (outerFirst.play (solo 49)).step (.exec 0) :=
    play_concat outerFirst (solo 49) (.exec 0)
  have hreturns : Resolves 0 (outerFirst.play (solo 17 ++ .exec 0 :: solo 31)) (.exec 0) := outerFirst_resolves
  have hreturns' : Resolves 0 (outerFirst.play (solo 7 ++ .exec 0 :: solo 41)) (.exec 0) := outerFirst_resolves
  obtain ⟨honce, hlifo, hdepth, hanswer⟩ := nested_prompts (m := outerFirst) (start_fresh ..) rfl rfl rfl
    (solo 50) (not_happens_of_panicFree (fun _ _ => TaskPanics.findsPanic) hcalm)
  exact ⟨honce 0 hui (hlast ▸ hreturns.2) ⟨solo 14, .exec 0, by decide, outerFirst_takes⟩,
    hlifo _ _ _ (.exec 0) 0 0 0 1 [] [.op (.ask 0 (.caller 1))] (by decide) hpumps outerFirst_asks_inner
      hreturns,
    hdepth _ _ _ (.exec 0) 0 0 (by decide) outerFirst_asks hreturns',
    (hanswer _ _ _ 0 2 (by decide) outerFirst_presses hopen).2 0 [] _ hpumps' (by decide)⟩

end MessageBox.Machine
