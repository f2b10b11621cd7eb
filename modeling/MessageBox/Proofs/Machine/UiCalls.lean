import MessageBox.Proofs.Machine.Caller

/-!
# Calls on the UI thread

On a headless machine without overrides, a call on the UI thread creates its dialog, hands it to the toolkit,
runs the loop, reads the handoff and returns, all on one thread. It is in one place of this at a time
(`Sole`). Meanwhile its dialog goes through the hands of the toolkit to the press of a button, which records
the answer: this too is in one place at a time, so that no dialog is pressed twice (`Once`).
-/

namespace MessageBox.Machine

/-- A sound headless machine without overrides. -/
structure Bare (m : Machine) : Prop where
  sound : m.Sound
  headless : m.Headless
  overrides : m.overrides = {}

/-- Every move keeps a machine bare. -/
lemma step_bare {m : Machine} (mv : Move) (hm : m.Bare) : (m.step mv).Bare := by
  refine ⟨step_sound mv hm.sound, step_headless mv hm.headless, ?_⟩
  rcases (steps m mv).fires_or_quiet with ⟨t, i, rest, next, sent, m₁, -, -, hf, he⟩ | hq
  · rw [he, ← hm.overrides]
    exact hf.overrides
  · rw [hq.overrides, hm.overrides]

/-- A fresh headless machine without overrides is bare. -/
lemma Fresh.bare {m : Machine} (hm : m.Fresh) (hterm : m.terminal = none) (hov : m.overrides = {}) : m.Bare :=
  ⟨hm.sound, hm.headless hterm, hov⟩

/-! ### Steps of a call and of its dialog -/

/-- Whether an instruction is a step of a call until the toolkit has decided about its dialog. -/
def Instr.offers (m : Machine) (c : CallId) : Instr → Bool
  | .create c' => c' == c
  | .present d | .accept d | .exhibit d | .choose d | .schedulePress d _ | .keep d => m.caller? d == some c
  | _ => false

/-- Whether an instruction is the one with which a call on the UI thread goes on. -/
def Instr.serves (m : Machine) (c : CallId) : Instr → Bool
  | .nest c' | .collect c' | .deactivate c' _ | .resolve c' _ => c' == c
  | i => i.offers m c

/-- Whether an instruction has the dialog of a call in its hands, or the answer to the call. -/
def Instr.answers (m : Machine) (c : CallId) : Instr → Bool
  | .complete c' _ => c' == c
  | .pressTaken _ d _ | .putBack _ d | .pressChosen d _ => m.caller? d == some c
  | i => i.offers m c

/-- The toolkit takes the dialog of a call with this instruction. -/
def TakesDialog (m : Machine) (c : CallId) (i : Instr) : Prop :=
  ∃ d, m.caller? d = some c ∧ (i = .keep d ∨ ∃ slot, i = .schedulePress d slot ∧ m.loop.closed = false)

/-- A step until the decision about a call's dialog is one with which the call goes on. -/
lemma Instr.serves_of_offers {m : Machine} {c : CallId} {i : Instr} (h : i.offers m c = true) :
    i.serves m c = true := by
  cases i <;> first | exact h | cases h

/-- A step until the decision about a call's dialog has the dialog in its hands. -/
lemma Instr.answers_of_offers {m : Machine} {c : CallId} {i : Instr} (h : i.offers m c = true) :
    i.answers m c = true := by
  cases i <;> first | exact h | cases h

/-- The step in which the toolkit takes a call's dialog is one of those until the decision about it. -/
lemma TakesDialog.offers {m : Machine} {c : CallId} {i : Instr} (h : TakesDialog m c i) :
    i.offers m c = true := by
  obtain ⟨d, hd, rfl | ⟨slot, rfl, -⟩⟩ := h <;> simp [Instr.offers, hd]

/-- What a later machine says about an instruction of an earlier one is the same. -/
lemma Grows.offers {m m' : Machine} (h : m.Grows m') {i : Instr} (hi : i.Sound m) (c : CallId) :
    i.offers m' c = i.offers m c := by
  cases i with
  | present d | accept d | exhibit d | choose d | keep d => simp only [Instr.offers, h.caller?_before hi]
  | schedulePress d slot =>
    obtain ⟨o, ho, -⟩ := hi
    simp only [Instr.offers, h.caller?_before (List.getElem?_eq_some_iff.1 ho).1]
  | _ => rfl

/-- With which call a sound instruction goes on does not change on a later machine. -/
lemma Grows.serves {m m' : Machine} (h : m.Grows m') {i : Instr} (hi : i.Sound m) (c : CallId) :
    i.serves m' c = i.serves m c := by
  cases i <;> first | rfl | exact h.offers hi c

/-- Whose dialog or answer a sound instruction has in its hands does not change on a later machine. -/
lemma Grows.answers {m m' : Machine} (h : m.Grows m') {i : Instr} (hi : i.Sound m) (c : CallId) :
    i.answers m' c = i.answers m c := by
  cases i with
  | pressTaken _ d _ | putBack _ d => simp only [Instr.answers, h.caller?_before hi]
  | pressChosen d slot =>
    obtain ⟨o, ho, -⟩ := hi
    simp only [Instr.answers, h.caller?_before (List.getElem?_eq_some_iff.1 ho).1]
  | _ => first | rfl | exact h.offers hi c

/-- A sound instruction that is a step of a call until its dialog is decided about is one of a call that
exists. -/
lemma Instr.Sound.offers_lt {m : Machine} (hm : m.Sound) {i : Instr} {c : CallId} (hi : i.Sound m)
    (ho : i.offers m c = true) : c < m.calls.length := by
  cases i with
  | create c' =>
    obtain rfl : c' = c := by simpa [Instr.offers] using ho
    exact hi
  | present d | accept d | exhibit d | choose d | schedulePress d _ | keep d =>
    exact hm.caller_lt (by simpa [Instr.offers] using ho)
  | _ => cases ho

/-! ### From the dialog's creation to the toolkit's decision -/

/-- What a step of a call does until the toolkit has decided about its dialog: there is another such step, or
the toolkit keeps the dialog or has its press scheduled, and the nested run is next, or it refuses the
dialog. -/
inductive Offering (m : Machine) (c : CallId) (m₁ : Machine) : Instr → List Instr → List Instr → Prop where
  | goesOn {i j} :
    j.offers m₁ c = true →
    ¬ TakesDialog m c i →
    m₁.desk.pending = m.desk.pending →
    Offering m c m₁ i [j] []
  | kept {d} :
    m.caller? d = some c →
    m₁.desk.pending = m.desk.pending ++ [d] →
    Offering m c m₁ (.keep d) [.nest c] []
  | scheduled {d slot} :
    m.caller? d = some c →
    m₁.desk.pending = m.desk.pending →
    Offering m c m₁ (.schedulePress d slot) [.wakeLoop, .nest c] [.pressChosen d slot]
  | refused {i e} :
    ¬ TakesDialog m c i →
    m₁.desk.pending = m.desk.pending →
    Offering m c m₁ i [.report e, .deactivate c .noAction] []

/-- A step until the decision about a call's dialog leaves another such step, or leads to the decision. -/
lemma Fires.offering {m m₁ : Machine} {t i next sent} {c : CallId} (hf : Fires m t i next sent m₁)
    (hm : m.Bare) (hi : i.Sound m) (hu : m.In .uiThread c) (ho : i.offers m c = true) :
    Offering m c m₁ i next sent := by
  have hg := hf.grows
  have same : ∀ {d}, (m.caller? d == some c) = true → m₁.caller? d = some c :=
    fun hd => hg.caller? (by simpa using hd)
  cases hf with
  | noCall hi' hn => exact absurd hn (hi.call_ne_none hi')
  | noOffer hi' hn => exact absurd hn (hi.offer_ne_none hi')
  | @create c' call hcall =>
    obtain rfl : c' = c := by simpa [Instr.offers] using ho
    refine .goesOn ?_ (by rintro ⟨d, -, h | ⟨slot, h, -⟩⟩ <;> cases h) rfl
    rcases call.offer_origin c' with ⟨-, h⟩ | ⟨-, h⟩ <;>
      simp [Instr.offers, Machine.caller?, h, Origin.call?]
  | presentOpen _ ht => simp [hm.headless.terminal] at ht
  | presentInterrupt _ _ _ h _ _ => simp [hm.overrides] at h
  | presentIgnored _ _ _ h _ _ => simp [hm.overrides] at h
  | presentProgram ho' _ hp =>
    have := hm.sound.nested_of_ui ho' (by simpa [Instr.offers] using ho) hu
    rw [hp] at this
    cases this
  | @present d o _ _ _ _ =>
    have hpresented : m.presented d o = [.accept d] := by simp [presented, hm.overrides]
    rw [hpresented]
    exact .goesOn (by simp [Instr.offers, same ho]) (by rintro ⟨d, -, h | ⟨slot, h, -⟩⟩ <;> cases h) rfl
  | accept _ _ | exhibit _ | chooseNone _ _ | choose _ _ _ | chooseMissing _ _ _ =>
    exact .goesOn (by simp [Instr.offers, same ho]) (by rintro ⟨d, -, h | ⟨slot, h, -⟩⟩ <;> cases h) rfl
  | acceptFailed ho' _ =>
    rw [hm.sound.nested_of_ui ho' (by simpa [Instr.offers] using ho) hu]
    exact .refused (by rintro ⟨d, -, h | ⟨slot, h, -⟩⟩ <;> cases h) rfl
  | schedulePressClosed ho' hc =>
    rw [hm.sound.nested_of_ui ho' (by simpa [Instr.offers] using ho) hu]
    exact .refused (by rintro ⟨d, -, h | ⟨slot, h, hopen⟩⟩ <;> simp_all) rfl
  | schedulePress ho' _ =>
    rw [hm.sound.nested_of_ui ho' (by simpa [Instr.offers] using ho) hu]
    exact .scheduled (by simpa [Instr.offers] using ho) rfl
  | keep ho' =>
    rw [hm.sound.nested_of_ui ho' (by simpa [Instr.offers] using ho) hu]
    exact .kept (by simpa [Instr.offers] using ho) rfl
  | _ => cases ho

/-- Where the steps of a call until the toolkit's decision come from. -/
lemma Fires.offers_from {m m₁ : Machine} {t i next sent j} {c : CallId} (hf : Fires m t i next sent m₁)
    (hi : i.Sound m) (hc : ¬ m.In .worker c) (hj : j ∈ next ∨ j ∈ sent) (ho : j.offers m₁ c = true) :
    i.offers m c = true ∨ c = m.calls.length ∧ ∃ p ticket, i = .op (.ask p ticket) := by
  have hg := hf.grows
  have old : ∀ {d o}, m.dialogs[d]? = some o → m₁.caller? d = some c → m.caller? d = some c :=
    fun hd h => (hg.caller?_before (List.getElem?_eq_some_iff.1 hd).1).symm.trans h
  cases j with
  | create c' =>
    obtain rfl : c' = c := by simpa [Instr.offers] using ho
    cases hf.leads hj with
    | ask _ _ => exact .inr ⟨rfl, _, _, rfl⟩
    | create => exact absurd hi hc
    | _ => simp_all
  | present d =>
    have hd : m₁.caller? d = some c := by simpa [Instr.offers] using ho
    cases hf.leads hj with
    | offered =>
      cases hf with
      | offer => simp [Machine.caller?, programOffer, Origin.call?] at hd
      | post h _ | postClosed h _ => cases h
      | noCall h _ | noOffer h _ => cases h
    | @created c' call hcall =>
      cases hf with
      | create hcall' =>
        rw [hcall] at hcall'
        cases hcall'
        left
        rcases call.offer_origin c' with ⟨-, h⟩ | ⟨-, h⟩ <;>
          simpa [Machine.caller?, h, Origin.call?, Instr.offers] using hd
      | noCall h hn =>
        cases h
        rw [hcall] at hn
        cases hn
      | noOffer h _ => cases h
    | _ => simp_all
  | accept d | exhibit d | choose d | schedulePress d _ | keep d =>
    have hd : m₁.caller? d = some c := by simpa [Instr.offers] using ho
    cases hf.leads hj <;> simp_all [Instr.offers]
  | _ => cases ho

/-! ### One place in a call -/

/-- Calls on the UI thread are in one place at a time. -/
def Sole (m : Machine) : Prop :=
  ∀ c, m.In .uiThread c →
    m.agenda.countP (Instr.serves m c) + (if (m.returned? c).isSome then 1 else 0) ≤ 1

/-- What is counted on the agenda and beside it stays at most one over a firing that hands it on. -/
lemma Fires.count_le_one {m m₁ : Machine} {t i rest next sent} (hf : Fires m t i next sent m₁)
    (ht : m.codes[t]? = some (i :: rest)) {p p' : Instr → Bool} {q q' extra : Nat}
    (hp : ∀ j ∈ m.agenda, p' j = p j)
    (hbalance : next.countP p' + sent.countP p' + q' ≤ [i].countP p + q + extra)
    (h : m.agenda.countP p + q + extra ≤ 1) : (m₁.goto t (next ++ rest)).agenda.countP p' + q' ≤ 1 := by
  have hcount := hf.countP ht p'
  have hsame : m.agenda.countP p' = m.agenda.countP p :=
    List.countP_congr fun j hj => by rw [hp j hj]
  have hhead : [i].countP p' = [i].countP p := by
    simp only [List.countP_singleton, hp i (mem_agenda_of_code ht (List.mem_cons_self ..))]
  omega

/-- What a press of a dialog leaves: the handler of the button, or nothing but a dialog that is put back, if
there is no such button. -/
lemma Fires.press_cases {m m₁ : Machine} {t i next sent d slot} (hf : Fires m t i next sent m₁)
    (hi : i.press? = some (d, slot)) :
    sent = [] ∧ ((∃ o reaction, m.dialogs[d]? = some o ∧ o.dialog.press slot = .ok reaction ∧
        next = reaction.code) ∨
      (∀ o reaction, m.dialogs[d]? = some o → o.dialog.press slot ≠ .ok reaction) ∧
        (next = [] ∨ ∃ place, next = [.putBack place d])) := by
  -- the dialog has no button in the slot
  have missing : ∀ {o back}, m.dialogs[d]? = some o → o.dialog.press slot = .error back →
      ∀ o reaction, m.dialogs[d]? = some o → o.dialog.press slot ≠ .ok reaction := by
    intro o back ho hr o' reaction ho' hr'
    rw [ho] at ho'
    cases ho'
    rw [hr] at hr'
    cases hr'
  cases hf with
  | pressTaken ho hr | pressChosen ho hr =>
    cases hi
    exact ⟨rfl, .inl ⟨_, _, ho, hr, rfl⟩⟩
  | pressTakenMissing ho hr =>
    cases hi
    exact ⟨rfl, .inr ⟨missing ho hr, .inr ⟨_, rfl⟩⟩⟩
  | pressChosenMissing ho hr =>
    cases hi
    exact ⟨rfl, .inr ⟨missing ho hr, .inl rfl⟩⟩
  | @noCall i c hc _ =>
    cases i with
    | pressTaken | pressChosen => cases hc
    | _ => cases hi
  | @noOffer i d' hd hn =>
    cases hd.symm.trans (Instr.offer?_of_press hi)
    refine ⟨rfl, .inr ⟨fun o _ ho => ?_, .inl rfl⟩⟩
    rw [hn] at ho
    cases ho
  | _ => cases hi

/-- Where the steps of a call on the UI thread come from. -/
lemma Fires.serves_from {m m₁ : Machine} {t i next sent j} {c : CallId} (hf : Fires m t i next sent m₁)
    (hi : i.Sound m) (hc : ¬ m.In .worker c) (hj : j ∈ next ∨ j ∈ sent)
    (hs : j.serves m₁ c = true) :
    i.serves m c = true ∨ c = m.calls.length ∧ ∃ p ticket, i = .op (.ask p ticket) := by
  -- the toolkit decides about a dialog with a step of the call, and not with a press
  have decided : ∀ {d o}, i.offer? = some d → m.dialogs[d]? = some o → o.origin = .nested c →
      j = .nest c ∨ (∃ o, j = .deactivate c o) → i.serves m c = true := by
    intro d o hoffer ho horigin hkind
    have hcaller : m.caller? d = some c := by simp [Machine.caller?, ho, horigin, Origin.call?]
    have hpress : i.press? = none := by
      cases hp : i.press? with
      | none => rfl
      | some pressed =>
        obtain ⟨rfl, ⟨_, reaction, -, -, rfl⟩ | ⟨-, rfl | ⟨place, rfl⟩⟩⟩ := hf.press_cases hp <;>
          rcases hkind with rfl | ⟨o, rfl⟩ <;> simp at hj
    cases i with
    | present | accept | exhibit | choose | schedulePress | keep =>
      cases hoffer
      simp [Instr.serves, Instr.offers, hcaller]
    | pressTaken | pressChosen => cases hpress
    | _ => cases hoffer
  cases j with
  | nest c' =>
    obtain rfl : c' = c := by simpa [Instr.serves] using hs
    left
    cases hf.leads hj with
    | accepted hoffer ho hmem => exact decided hoffer ho (by simpa using hmem) (.inl rfl)
    | _ => simp_all
  | collect c' =>
    obtain rfl : c' = c := by simpa [Instr.serves] using hs
    left
    cases hf.leads hj with
    | swallowed _ _ _ => exact absurd hi hc
    | nestCollect => exact hs
    | _ => simp_all
  | deactivate c' o =>
    obtain rfl : c' = c := by simpa [Instr.serves] using hs
    left
    cases hf.leads hj with
    | collected _ => exact hs
    | closed _ | ready _ _ | interrupted _ _ _ | timedOut _ _ => exact absurd hi hc
    | refused hoffer ho _ hmem =>
      obtain ⟨horigin, -⟩ : _ ∧ o = .noAction := by simpa using hmem
      exact decided hoffer ho horigin (.inr ⟨o, rfl⟩)
    | _ => simp_all
  | resolve c' o =>
    obtain rfl : c' = c := by simpa [Instr.serves] using hs
    left
    cases hf.leads hj with
    | resolve => exact hs
    | _ => simp_all
  | _ =>
    rcases hf.offers_from hi hc hj hs with h | h
    · exact .inl (Instr.serves_of_offers h)
    · exact .inr h

/-- At most one instruction follows an accepted offer. -/
lemma Origin.countP_accepted_le (origin : Origin) (p : Instr → Bool) : origin.accepted.countP p ≤ 1 :=
  Nat.le_trans List.countP_le_length (by cases origin <;> simp [Origin.accepted])

/-- A step of a call on the UI thread leaves at most one more to do. -/
lemma Fires.serves_one {m m₁ : Machine} {t i next sent} {c : CallId} (hf : Fires m t i next sent m₁)
    (hm : m.Sound) (hu : m.In .uiThread c) (hs : i.serves m c = true) :
    next.countP (Instr.serves m₁ c) + sent.countP (Instr.serves m₁ c) ≤ 1 := by
  have accepted := fun o : Offer => o.origin.countP_accepted_le (Instr.serves m₁ c)
  -- a refused call has its return left to do
  have refused : ∀ {d o e}, m.dialogs[d]? = some o → m.caller? d = some c →
      (o.origin.refused e).countP (Instr.serves m₁ c) ≤ 1 := by
    intro d o e ho hd
    rw [hm.nested_of_ui ho hd hu]
    simp [Origin.refused, Instr.serves, Instr.offers]
  -- an override that presses the dialog leaves the nested run, and otherwise the toolkit gets the dialog
  have presented : ∀ {d o}, (m.presented d o).countP (Instr.serves m₁ c) ≤ 1 := by
    intro d o
    unfold Machine.presented
    split
    · exact List.countP_le_length
    · split
      · rw [List.countP_cons_of_neg (by simp [Instr.serves, Instr.offers])]
        exact accepted o
      · exact List.countP_le_length
  cases hf with
  | presentOpen _ _ => exact accepted _
  | presentInterrupt _ _ _ _ _ _ =>
    rw [List.countP_cons_of_neg (by simp [Instr.serves, Instr.offers])]
    exact presented
  | presentIgnored _ _ _ _ _ _ | present _ _ _ _ => exact presented
  | acceptFailed ho _ => exact refused ho (by simpa [Instr.serves, Instr.offers] using hs)
  | schedulePressClosed ho _ => exact refused ho (by simpa [Instr.serves, Instr.offers] using hs)
  | keep _ => exact accepted _
  | schedulePress _ _ =>
    rw [List.countP_cons_of_neg (by simp [Instr.serves, Instr.offers]),
      List.countP_cons_of_neg (by simp [Instr.serves, Instr.offers])]
    exact accepted _
  | nestFailed _ | nest _ _ | nestForeign _ _ =>
    obtain rfl := by simpa [Instr.serves, Instr.offers] using hs
    simp [Instr.serves, Instr.offers]
  | noCall _ _ | noOffer _ _ | resolve _ => exact Nat.zero_le 1
  | create _ | collect _ | deactivate _ | presentProgram _ _ _ | accept _ _ | exhibit _ | chooseNone _ _
  | choose _ _ _ | chooseMissing _ _ _ => exact List.countP_le_length
  | _ => cases hs

/-- A call that an instruction goes on with exists. -/
lemma Instr.Sound.serves_lt {m : Machine} (hm : m.Sound) {i : Instr} {c : CallId} (hi : i.Sound m)
    (hs : i.serves m c = true) : c < m.calls.length := by
  cases i with
  | nest c' =>
    obtain rfl : c' = c := by simpa [Instr.serves] using hs
    obtain ⟨call, hcall, -⟩ := hi
    exact (List.getElem?_eq_some_iff.1 hcall).1
  | collect c' | deactivate c' _ | resolve c' _ =>
    obtain rfl : c' = c := by simpa [Instr.serves] using hs
    exact hi
  | _ => exact hi.offers_lt hm hs

/-- A call that is made in some context is among the calls. -/
lemma In.lt {m : Machine} {x : Context} {c : CallId} (h : m.In x c) : c < m.calls.length := by
  obtain ⟨call, hcall, -⟩ := h
  exact (List.getElem?_eq_some_iff.1 hcall).1

/-- The start of a call leaves one instruction behind its activation. -/
lemma Fires.asks_one {m m₁ : Machine} {t prompt ticket next sent}
    (hf : Fires m t (.op (.ask prompt ticket)) next sent m₁) {p : Instr → Bool}
    (hp : p (.activate m.calls.length) = false) : next.countP p + sent.countP p ≤ 1 := by
  cases hf with
  | ask _ =>
    rw [List.countP_cons_of_neg (by simp [hp])]
    exact List.countP_le_length
  | askUnknown _ => exact Nat.zero_le 1
  | post h _ | postClosed h _ => cases h
  | noCall h _ | noOffer h _ => cases h

/-- The balance of a call's steps over a firing. -/
lemma Fires.serves {m m₁ : Machine} {t i next sent} {c : CallId} (hf : Fires m t i next sent m₁)
    (hm : m.Sound) (hi : i.Sound m) (hu : m₁.In .uiThread c) :
    next.countP (Instr.serves m₁ c) + sent.countP (Instr.serves m₁ c) +
        (if (m₁.returned? c).isSome then 1 else 0) ≤
      [i].countP (Instr.serves m c) + (if (m.returned? c).isSome then 1 else 0) +
        if c = m.calls.length then 1 else 0 := by
  have hc : ¬ m.In .worker c := fun hw => absurd ((hf.grows.in hw).unique hu) (by simp)
  by_cases hs : i.serves m c = true
  · have hold : m.In .uiThread c := hf.grows.in_before (hi.serves_lt hm hs) hu
    have hone := hf.serves_one hm hold hs
    have hhead : [i].countP (Instr.serves m c) = 1 := by simp [hs]
    rw [hhead]
    obtain hr | ⟨o, rfl, rfl, rfl, -⟩ := hf.returned? c
    · rw [hr]
      omega
    · simp only [List.countP_nil]
      split <;> omega
  · have hreturned : m₁.returned? c = m.returned? c := by
      obtain he | ⟨o, rfl, -, -, -⟩ := hf.returned? c
      · exact he
      · exact absurd (by simp [Instr.serves]) hs
    rw [hreturned]
    by_cases hex : ∃ j, (j ∈ next ∨ j ∈ sent) ∧ j.serves m₁ c = true
    · obtain ⟨j, hj, hjs⟩ := hex
      rcases hf.serves_from hi hc hj hjs with hs' | ⟨rfl, p, ticket, rfl⟩
      · exact absurd hs' hs
      · have hone := hf.asks_one (p := Instr.serves m₁ m.calls.length) rfl
        rw [if_pos rfl]
        omega
    · obtain ⟨hnext, hsent⟩ := countP_eq_zero_of_not hex
      rw [hnext, hsent]
      omega

/-- Nobody goes on with a call that is yet to come. -/
lemma Sound.serves_new {m : Machine} (hm : m.Sound) :
    m.agenda.countP (Instr.serves m m.calls.length) = 0 := by
  refine List.countP_eq_zero.2 fun i hi hs => ?_
  exact absurd ((hm.agenda i hi).serves_lt hm hs) (Nat.lt_irrefl _)

/-- Every move keeps a call on the UI thread in one place. -/
lemma step_sole {m : Machine} (mv : Move) (hm : m.Sound) (h : m.Sole) : (m.step mv).Sole := by
  intro c hu
  rcases (steps m mv).fires_or_quiet with ⟨t, i, rest, next, sent, m₁, -, ht, hf, he⟩ | hq
  · rw [he] at hu ⊢
    have hi : i.Sound m := hm.agenda i (mem_agenda_of_code ht (List.mem_cons_self ..))
    have hbalance := hf.serves hm hi hu
    refine hf.count_le_one ht (fun j hj => hf.grows.serves (hm.agenda j hj) c) hbalance ?_
    rcases hf.in_before hu with hold | rfl
    · rw [if_neg (Nat.ne_of_lt hold.lt)]
      exact h c hold
    · have hzero := hm.serves_new
      simp [hzero, returned?]
  · have hagenda := hq.agenda.countP_le (Instr.serves m c)
    have hserves : Instr.serves (m.step mv) c = Instr.serves m c := by
      funext i
      cases i <;> simp [Instr.serves, Instr.offers, caller?, hq.dialogs]
    have hreturned : (m.step mv).returned? c = m.returned? c := by simp [returned?, hq.calls]
    have hone := h c (by simpa [In, hq.calls] using hu)
    rw [hserves, hreturned]
    omega

/-! ### One place for a dialog -/

/-- The answer that is recorded for a call. -/
def answer? (m : Machine) (c : CallId) : Option Nat := m.calls[c]?.bind (·.handoff.value)

/-- How many pending dialogs belong to a call. -/
def pendingOf (m : Machine) (c : CallId) : Nat := m.desk.pending.countP fun d => m.caller? d == some c

/-- The dialog of a call on the UI thread is in one place at a time: in the hands of an instruction, pending, or
turned into an answer. -/
def Once (m : Machine) : Prop :=
  ∀ c, m.In .uiThread c →
    m.agenda.countP (Instr.answers m c) + (m.pendingOf c + if (m.answer? c).isSome then 1 else 0) ≤ 1

/-- A call whose dialog an instruction has in its hands exists. -/
lemma Instr.Sound.answers_lt {m : Machine} (hm : m.Sound) {i : Instr} {c : CallId} (hi : i.Sound m)
    (ha : i.answers m c = true) : c < m.calls.length := by
  cases i with
  | complete c' code =>
    obtain rfl : c' = c := by simpa [Instr.answers] using ha
    obtain ⟨call, slot, hcall, -⟩ := hi
    exact (List.getElem?_eq_some_iff.1 hcall).1
  | pressTaken _ d _ | putBack _ d | pressChosen d _ => exact hm.caller_lt (by simpa [Instr.answers] using ha)
  | _ => exact hi.offers_lt hm ha

/-- Where the dialog of a call comes from. -/
lemma Fires.answers_from {m m₁ : Machine} {t i next sent j} {c : CallId} (hf : Fires m t i next sent m₁)
    (hm : m.Bare) (hi : i.Sound m) (hview : ∀ view slot, i ≠ .conclude view slot) (hc : ¬ m.In .worker c)
    (hj : j ∈ next ∨ j ∈ sent) (ha : j.answers m₁ c = true) :
    i.answers m c = true ∨ (c = m.calls.length ∧ ∃ p ticket, i = .op (.ask p ticket)) ∨
      ∃ index slot, i = .takePending index slot := by
  have hg := hf.grows
  have old : ∀ {d o}, m.dialogs[d]? = some o → m₁.caller? d = some c → m.caller? d = some c :=
    fun hd h => (hg.caller?_before (List.getElem?_eq_some_iff.1 hd).1).symm.trans h
  cases j with
  | complete c' code =>
    obtain rfl : c' = c := by simpa [Instr.answers] using ha
    cases hf.leads hj with
    | @pressed _ d slot o reaction _ hpress ho hr hmem =>
      have hd := hm.sound.caller_of_complete ho hr hmem
      left
      cases i with
      | pressTaken | pressChosen =>
        cases hpress
        simp [Instr.answers, hd]
      | _ => cases hpress
    | concluded _ _ => exact absurd rfl (hview _ _)
    | _ => simp_all
  | pressTaken place d slot =>
    cases hf.leads hj with
    | pressTaken _ => exact .inr (.inr ⟨_, _, rfl⟩)
    | _ => simp_all
  | putBack place d =>
    have hd : m₁.caller? d = some c := by simpa [Instr.answers] using ha
    cases hf.leads hj with
    | putBack ho _ => exact .inl (by simp [Instr.answers, old ho hd])
    | _ => simp_all
  | pressChosen d slot =>
    have hd : m₁.caller? d = some c := by simpa [Instr.answers] using ha
    cases hf.leads hj with
    | pressChosen ho _ => exact .inl (by simp [Instr.answers, Instr.offers, old ho hd])
    | instant _ h _ => simp [hm.overrides] at h
    | _ => simp_all
  | _ =>
    rcases hf.offers_from hi hc hj ha with h | h
    · exact .inl (Instr.answers_of_offers h)
    · exact .inr (.inl h)

/-- An answer is recorded by the instruction for that only. -/
lemma Fires.answer? {m m₁ : Machine} {t i next sent} (hf : Fires m t i next sent m₁) (c : CallId) :
    m₁.answer? c = m.answer? c ∨ ∃ code, i = .complete c code := by
  cases hc : m₁.calls[c]? with
  | none =>
    left
    have hnone : m.calls[c]? = none := by
      have hle := hf.grows.calls_length
      rw [List.getElem?_eq_none_iff] at hc ⊢
      omega
    simp [Machine.answer?, hc, hnone]
  | some call =>
    obtain ⟨old, hold, rfl | ⟨f, hch, rfl⟩⟩ | ⟨p, ticket, q, -, -, hlen, rfl⟩ := hf.call_before hc
    · exact .inl (by simp [Machine.answer?, hc, hold])
    · cases hch with
      | complete _ _ => exact .inr ⟨_, rfl⟩
      | _ => exact .inl (by simp only [Machine.answer?, hc, hold]; rfl)
    · have hnone : m.calls[c]? = none := by simp [hlen]
      exact .inl (by simp [Machine.answer?, hc, hnone, newCall])

/-- Which dialogs belong to a call does not change while they are pending. -/
lemma Grows.pendingOf {m m' : Machine} (h : m.Grows m') (hm : m.Sound) (c : CallId) :
    (m.desk.pending.countP fun d => m'.caller? d == some c) = m.pendingOf c :=
  List.countP_congr fun d hd => by rw [h.caller?_before (hm.pending d hd)]

/-- A dialog of a call becomes pending only when it is kept or put back. -/
lemma Fires.pendingOf_le {m m₁ : Machine} {t i next sent} {c : CallId} (hf : Fires m t i next sent m₁)
    (hm : m.Sound) (hi : i.Sound m) :
    m₁.pendingOf c ≤ m.pendingOf c ∨
      m₁.pendingOf c = m.pendingOf c + 1 ∧
        ∃ d, m.caller? d = some c ∧ (i = .keep d ∨ ∃ place, i = .putBack place d) := by
  have hsame := hf.grows.pendingOf hm c
  unfold Machine.pendingOf at hsame ⊢
  rw [← hsame]
  -- one more pending dialog counts if it belongs to the call
  have added : ∀ {d}, d < m.dialogs.length → (i = .keep d ∨ ∃ place, i = .putBack place d) →
      m₁.desk.pending.Perm (d :: m.desk.pending) →
      (m₁.desk.pending.countP fun d => m₁.caller? d == some c) ≤
          m.desk.pending.countP (fun d => m₁.caller? d == some c) ∨
        (m₁.desk.pending.countP fun d => m₁.caller? d == some c) =
            m.desk.pending.countP (fun d => m₁.caller? d == some c) + 1 ∧
          ∃ d, m.caller? d = some c ∧ (i = .keep d ∨ ∃ place, i = .putBack place d) := by
    intro d hd hkind hperm
    rw [hperm.countP_eq, List.countP_cons]
    by_cases hc : m₁.caller? d = some c
    · exact .inr ⟨by simp [hc], d, hf.grows.caller?_before hd ▸ hc, hkind⟩
    · exact .inl (by simp [hc])
  obtain he | ⟨d, rfl, he⟩ | ⟨index, slot, place, d, rfl, -, -, he⟩ | ⟨place, d, rfl, he⟩ |
    ⟨d, o, -, -, -, he⟩ := hf.pending
  · exact .inl (Nat.le_of_eq (by rw [he]))
  · exact added hi (.inl rfl) (he ▸ List.perm_append_singleton d _)
  · exact .inl (he ▸ (List.eraseIdx_sublist ..).countP_le)
  · exact added hi (.inr ⟨place, rfl⟩) (he ▸ List.perm_insertIdx d _ (Nat.min_le_right ..))
  · exact .inl (he ▸ (List.dropLast_sublist _).countP_le)

/-- A dialog that is taken to be pressed is pending no longer. -/
lemma Fires.takes_pending {m m₁ : Machine} {t index slot next sent} {c : CallId}
    (hf : Fires m t (.takePending index slot) next sent m₁) :
    next.countP (Instr.answers m₁ c) + sent.countP (Instr.answers m₁ c) + m₁.pendingOf c ≤ m.pendingOf c := by
  cases hf with
  | @takePending _ _ place d _ hd =>
    obtain ⟨hlt, hd⟩ := List.getElem?_eq_some_iff.1 hd
    have hperm := (List.getElem_cons_eraseIdx_perm hlt).countP_eq fun d => m.caller? d == some c
    rw [hd, List.countP_cons] at hperm
    rw [List.countP_singleton, List.countP_nil, Nat.add_zero, Nat.add_comm]
    exact Nat.le_of_eq hperm
  | takeNothing _ => exact Nat.le_of_eq (Nat.zero_add _)
  | noCall h _ => cases h
  | noOffer h _ => cases h

/-- The handler of a button answers at most once. -/
lemma countP_reaction_le (m : Machine) (c : CallId) (reaction : Reaction) :
    reaction.code.countP (Instr.answers m c) ≤ 1 := by
  cases reaction with
  | script body =>
    have hnone : (load body).countP (Instr.answers m c) = 0 := by
      refine List.countP_eq_zero.2 fun i hi ha => ?_
      obtain ⟨o, -, rfl⟩ := mem_load.1 hi
      cases ha
    exact hnone ▸ Nat.zero_le 1
  | answer c' code stops =>
    have hsignal : ∀ {o}, (Instr.op o).answers m c = false := rfl
    cases stops with
    | true => simp [Reaction.code, List.countP_cons, hsignal]; split <;> omega
    | false => simp [Reaction.code, List.countP_cons]; split <;> omega

/-- A press of a dialog hands it on once at most: to its handler, or back. -/
lemma Fires.press_hands {m m₁ : Machine} {t i next sent d slot} (hf : Fires m t i next sent m₁) (c : CallId)
    (hi : i.press? = some (d, slot)) :
    next.countP (Instr.answers m₁ c) + sent.countP (Instr.answers m₁ c) ≤ 1 := by
  obtain ⟨rfl, ⟨_, _, -, -, rfl⟩ | ⟨-, rfl | ⟨_, rfl⟩⟩⟩ := hf.press_cases hi
  · exact countP_reaction_le ..
  · exact Nat.zero_le 1
  · exact List.countP_le_length

/-- An instruction that has the dialog of a call in its hands hands it on once at most, or the dialog becomes
pending, or the answer is recorded. -/
lemma Fires.answers_one {m m₁ : Machine} {t i next sent} {c : CallId} (hf : Fires m t i next sent m₁)
    (hm : m.Bare) (hi : i.Sound m) (hu : m.In .uiThread c) (ha : i.answers m c = true) :
    next.countP (Instr.answers m₁ c) + sent.countP (Instr.answers m₁ c) +
        (m₁.pendingOf c + if (m₁.answer? c).isSome then 1 else 0) ≤
      1 + (m.pendingOf c + if (m.answer? c).isSome then 1 else 0) := by
  have hpending := hf.pendingOf_le (c := c) hm.sound hi
  have unrecorded : (∀ code, i ≠ .complete c code) → m₁.answer? c = m.answer? c := by
    intro hn
    obtain he | ⟨code, rfl⟩ := hf.answer? c
    · exact he
    · exact absurd rfl (hn code)
  have unkept : (∀ d, i ≠ .keep d) → (∀ place d, i ≠ .putBack place d) → m₁.pendingOf c ≤ m.pendingOf c := by
    intro hkeep hback
    obtain hle | ⟨-, d, -, he | ⟨place, he⟩⟩ := hpending
    · exact hle
    · exact absurd he (hkeep d)
    · exact absurd he (hback place d)
  have offering : i.offers m c = true →
      next.countP (Instr.answers m₁ c) + sent.countP (Instr.answers m₁ c) +
          (m₁.pendingOf c + if (m₁.answer? c).isSome then 1 else 0) ≤
        1 + (m.pendingOf c + if (m.answer? c).isSome then 1 else 0) := by
    intro ho
    rw [unrecorded (by rintro code rfl; cases ho)]
    have same : m₁.desk.pending = m.desk.pending → m₁.pendingOf c = m.pendingOf c := by
      intro he
      rw [← hf.grows.pendingOf hm.sound c, Machine.pendingOf, he]
    cases hf.offering hm hi hu ho with
    | goesOn hj _ he =>
      rw [List.countP_singleton, Instr.answers_of_offers hj, same he]
      exact Nat.le_refl _
    | kept _ _ =>
      have hnothing : [Instr.nest c].countP (Instr.answers m₁ c) = 0 := rfl
      rw [hnothing, List.countP_nil]
      omega
    | @scheduled d slot _ he =>
      have hnothing : [Instr.wakeLoop, .nest c].countP (Instr.answers m₁ c) = 0 := rfl
      have hone := List.countP_le_length (p := Instr.answers m₁ c) (l := [Instr.pressChosen d slot])
      rw [List.length_singleton] at hone
      rw [hnothing, same he]
      omega
    | @refused _ e _ he =>
      have hnothing : [Instr.report e, .deactivate c .noAction].countP (Instr.answers m₁ c) = 0 := rfl
      rw [hnothing, List.countP_nil, same he]
      omega
  cases i with
  | complete c' code =>
    have hle := unkept (by simp) (by simp)
    have hnothing : next.countP (Instr.answers m₁ c) = 0 ∧ sent.countP (Instr.answers m₁ c) = 0 := by
      cases hf with
      | complete _ _ => exact ⟨rfl, rfl⟩
      | completeAgain _ _ => exact ⟨rfl, rfl⟩
      | noCall _ _ => exact ⟨rfl, rfl⟩
      | noOffer h _ => cases h
    rw [hnothing.1, hnothing.2]
    split <;> omega
  | pressTaken place d slot | pressChosen d slot =>
    have hone := hf.press_hands c rfl
    have hle := unkept (by simp) (by simp)
    rw [unrecorded (by simp)]
    omega
  | putBack place d =>
    have hnothing : next = [] ∧ sent = [] := by
      cases hf with
      | putBack => exact ⟨rfl, rfl⟩
      | noCall h _ => cases h
      | noOffer h _ => cases h
    rw [unrecorded (by simp), hnothing.1, hnothing.2]
    simp only [List.countP_nil]
    omega
  | _ => exact offering ha

/-- The balance of a call's dialog over a firing. -/
lemma Fires.answers {m m₁ : Machine} {t i next sent} {c : CallId} (hf : Fires m t i next sent m₁)
    (hm : m.Bare) (hi : i.Sound m) (hview : ∀ view slot, i ≠ .conclude view slot) (hu : m₁.In .uiThread c) :
    next.countP (Instr.answers m₁ c) + sent.countP (Instr.answers m₁ c) +
        (m₁.pendingOf c + if (m₁.answer? c).isSome then 1 else 0) ≤
      [i].countP (Instr.answers m c) + (m.pendingOf c + if (m.answer? c).isSome then 1 else 0) +
        if c = m.calls.length then 1 else 0 := by
  have hc : ¬ m.In .worker c := fun hw => absurd ((hf.grows.in hw).unique hu) (by simp)
  by_cases ha : i.answers m c = true
  · have hold : m.In .uiThread c := hf.grows.in_before (hi.answers_lt hm.sound ha) hu
    have hhead : [i].countP (Instr.answers m c) = 1 := by simp [ha]
    have hone := hf.answers_one hm hi hold ha
    omega
  · have hanswer : m₁.answer? c = m.answer? c := by
      obtain he | ⟨code, rfl⟩ := hf.answer? c
      · exact he
      · exact absurd (by simp [Instr.answers]) ha
    have hpending : m₁.pendingOf c ≤ m.pendingOf c := by
      obtain hle | ⟨-, d, hd, rfl | ⟨place, rfl⟩⟩ := hf.pendingOf_le (c := c) hm.sound hi
      · exact hle
      · exact absurd (by simp [Instr.answers, Instr.offers, hd]) ha
      · exact absurd (by simp [Instr.answers, hd]) ha
    rw [hanswer]
    -- a dialog that nobody had in hand comes with a new call, or from the pending ones
    by_cases hex : ∃ j, (j ∈ next ∨ j ∈ sent) ∧ j.answers m₁ c = true
    · obtain ⟨j, hj, hja⟩ := hex
      obtain h | ⟨rfl, p, ticket, rfl⟩ | ⟨index, slot, rfl⟩ := hf.answers_from hm hi hview hc hj hja
      · exact absurd h ha
      · have hone := hf.asks_one (p := Instr.answers m₁ m.calls.length) rfl
        rw [if_pos rfl]
        omega
      · have hle := hf.takes_pending (c := c)
        omega
    · obtain ⟨hnext, hsent⟩ := countP_eq_zero_of_not hex
      rw [hnext, hsent]
      omega

/-- Nobody has a dialog of a call that is yet to come. -/
lemma Sound.answers_new {m : Machine} (hm : m.Sound) :
    m.agenda.countP (Instr.answers m m.calls.length) = 0 ∧ m.pendingOf m.calls.length = 0 ∧
      m.answer? m.calls.length = none := by
  refine ⟨List.countP_eq_zero.2 fun i hi ha => ?_, List.countP_eq_zero.2 fun d _ hd => ?_, ?_⟩
  · exact absurd ((hm.agenda i hi).answers_lt hm ha) (Nat.lt_irrefl _)
  · exact absurd (hm.caller_lt (by simpa using hd)) (Nat.lt_irrefl _)
  · simp [answer?]

/-- Every move keeps the dialog of a call on the UI thread in one place. -/
lemma step_once {m : Machine} (mv : Move) (hm : m.Bare) (h : m.Once) : (m.step mv).Once := by
  intro c hu
  rcases (steps m mv).fires_or_quiet with ⟨t, i, rest, next, sent, m₁, -, ht, hf, he⟩ | hq
  · rw [he] at hu ⊢
    have himem : i ∈ m.agenda := mem_agenda_of_code ht (List.mem_cons_self ..)
    have hview : ∀ view slot, i ≠ .conclude view slot := by
      rintro view slot rfl
      exact hm.headless.conclude view slot himem
    have hbalance := hf.answers hm (hm.sound.agenda i himem) hview hu
    refine hf.count_le_one ht (fun j hj => hf.grows.answers (hm.sound.agenda j hj) c) hbalance ?_
    rcases hf.in_before hu with hold | rfl
    · rw [if_neg (Nat.ne_of_lt hold.lt)]
      exact h c hold
    · obtain ⟨hagenda, hpending, hanswer⟩ := hm.sound.answers_new
      simp [hagenda, hpending, hanswer]
  · have hagenda := hq.agenda.countP_le (Instr.answers m c)
    have hanswers : Instr.answers (m.step mv) c = Instr.answers m c := by
      funext i
      cases i <;> simp [Instr.answers, Instr.offers, caller?, hq.dialogs]
    have hpending : (m.step mv).pendingOf c = m.pendingOf c := by simp [pendingOf, caller?, hq.desk, hq.dialogs]
    have hanswer : (m.step mv).answer? c = m.answer? c := by simp [answer?, hq.calls]
    have hone := h c (by simpa [In, hq.calls] using hu)
    rw [hanswers, hpending, hanswer]
    omega

end MessageBox.Machine
