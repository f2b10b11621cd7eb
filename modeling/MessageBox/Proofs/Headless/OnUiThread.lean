import MessageBox.Proofs.Headless.Scene

/-!
# A headless run on the UI thread

The main thread posts the call and waits for it. The UI thread takes it from the queue, shows the dialog, has the
responder post the press, and takes that from the queue in the nested run of the call. A state of the run is where
the two threads are (`Sender`, `Host`); the queue, the tokens, the call and its dialog follow from that.
-/

namespace MessageBox.Invocation.OnUiThread

open Machine

variable {inv : Invocation} {index : Nat} {slot : Slot} {m m' : Machine}

/-! ### Where the threads are -/

/-- Where the main thread is. -/
inductive Sender where
  | post
  | postWake
  | receive
  | closing (p : Closing)

namespace Sender

/-- What the main thread still has to do. -/
def code : Sender → List Instr
  | .post => .op (.post [.ask 0 (.caller caller)]) :: .op (.receive caller) :: Closing.close.code
  | .postWake => .wakeLoop :: .op (.receive caller) :: Closing.close.code
  | .receive => .op (.receive caller) :: Closing.close.code
  | .closing p => p.code

/-- Whether the loop is closed. -/
def closed : Sender → Bool
  | .closing p => p.closed
  | _ => false

/-- Whether the UI thread has been told to stop. -/
def signalled : Sender → Bool
  | .closing p => p.signalled
  | _ => false

/-- Whether the call has been posted. -/
def posted : Sender → Bool
  | .post => false
  | _ => true

/-- Whether the call has not been seen resolved. -/
def waits : Sender → Bool
  | .closing _ => false
  | _ => true

/-- A bound on what the main thread still has to do. -/
def rank : Sender → Nat
  | .post => 16
  | .postWake => 14
  | .receive => 12
  | .closing p => p.rank

/-- The main thread never has more to do than this. -/
lemma rank_le (main : Sender) : main.rank ≤ 16 := by
  cases main with
  | closing p => exact Nat.le_trans p.rank_le (by decide)
  | _ => decide

end Sender

/-- Where the UI thread is: it runs the loop, serves the call, or has ended. -/
inductive Host where
  | entry
  | idle (asleep : Bool)
  | ask
  | activate
  | create
  | present
  | accept
  | exhibit
  | choose
  | schedulePress
  | pressWake
  | nest
  | wait
  | press
  | complete
  | callWake
  | signal
  | signalWake
  | stop
  | nestLeft
  | collect
  | deactivate
  | resolve
  | rest (asleep : Bool)
  | returned
  | done

namespace Host

/-- The outer run of the loop. -/
def outer : List Instr := [.pump .ui, .returned .ui false]

/-- The nested run of the call. -/
def nested : List Instr := .pump (.call 0) :: .nestLeft 0 :: .collect 0 :: outer

/-- What the UI thread still has to do. -/
def code (inv : Invocation) (index : Nat) (slot : Slot) : Host → List Instr
  | .entry => [.op (.run .ui false)]
  | .idle _ | .rest _ => outer
  | .ask => .op (.ask 0 (.caller caller)) :: outer
  | .activate => .activate 0 :: .create 0 :: outer
  | .create => .create 0 :: outer
  | .present => .present 0 :: outer
  | .accept => .accept 0 :: outer
  | .exhibit => .exhibit 0 :: outer
  | .choose => .choose 0 :: outer
  | .schedulePress => .schedulePress 0 slot :: outer
  | .pressWake => .wakeLoop :: .nest 0 :: outer
  | .nest => .nest 0 :: outer
  | .wait | .stop => nested
  | .press => .pressChosen 0 slot :: nested
  | .complete => .complete 0 (index + 1) :: .op (.signal (.call 0)) :: nested
  | .callWake => .wakeCall 0 :: .op (.signal (.call 0)) :: nested
  | .signal => .op (.signal (.call 0)) :: nested
  | .signalWake => .wakeLoop :: nested
  | .nestLeft => .nestLeft 0 :: .collect 0 :: outer
  | .collect => .collect 0 :: outer
  | .deactivate => .deactivate 0 (requested inv index) :: outer
  | .resolve => .resolve 0 (requested inv index) :: outer
  | .returned => [.returned .ui false]
  | .done => []

/-- Whether the UI thread sleeps. -/
def asleep : Host → Bool
  | .idle asleep | .rest asleep => asleep
  | _ => false

/-- The UI thread after somebody has woken it up. -/
def woken : Host → Host
  | .idle _ => .idle false
  | .rest _ => .rest false
  | ui => ui

/-- The call, as it was asked. -/
def call (inv : Invocation) : Call :=
  { prompt := 0, spec := inv.spec, options := inv.options, context := .uiThread, ticket := .caller caller }

/-- The call, once it is answered. -/
def answered (inv : Invocation) (index : Nat) : Call :=
  { call inv with handoff := { value := some (index + 1), permits := 1 } }

/-- The calls so far. -/
def calls (inv : Invocation) (index : Nat) : Host → List Call
  | .entry | .idle _ | .ask => []
  | .callWake | .signal | .signalWake | .stop | .nestLeft | .collect | .deactivate | .resolve =>
    [answered inv index]
  | .rest _ | .returned | .done => [{ answered inv index with outcome := some (requested inv index) }]
  | _ => [call inv]

/-- What a button of the dialog does. -/
def reaction (code : Nat) : Reaction := .answer 0 code true

/-- The dialogs so far. -/
def dialogs (inv : Invocation) : Host → List Offer
  | .entry | .idle _ | .ask | .activate | .create => []
  | _ => [⟨inv.spec.dialog reaction, .nested 0⟩]

/-- The tasks in the queue. -/
def queue (slot : Slot) (posted : Bool) : Host → List Task
  | .entry | .idle _ => if posted then [[.op (.ask 0 (.caller caller))]] else []
  | .pressWake | .nest | .wait => [[.pressChosen 0 slot]]
  | _ => []

/-- The tokens that the UI thread has signalled. -/
def tokens : Host → List Token
  | .signalWake | .stop | .nestLeft | .collect | .deactivate | .resolve | .rest _ | .returned | .done =>
    [.call 0]
  | _ => []

/-- A bound on what the UI thread still has to do. -/
def rank : Host → Nat
  | .entry => 29
  | .idle asleep => if asleep then 27 else 28
  | .ask => 26
  | .activate => 25
  | .create => 24
  | .present => 23
  | .accept => 22
  | .exhibit => 21
  | .choose => 20
  | .schedulePress => 19
  | .pressWake => 18
  | .nest => 17
  | .wait => 16
  | .press => 15
  | .complete => 14
  | .callWake => 13
  | .signal => 12
  | .signalWake => 11
  | .stop => 10
  | .nestLeft => 9
  | .collect => 8
  | .deactivate => 7
  | .resolve => 6
  | .rest asleep => if asleep then 3 else 4
  | .returned => 1
  | .done => 0

/-- Whether the call is resolved. -/
def resolved : Host → Bool
  | .rest _ | .returned | .done => true
  | _ => false

/-- Being woken up gives the UI thread one more thing to do at most. -/
lemma rank_woken (ui : Host) : ui.woken.rank ≤ ui.rank + 1 := by
  cases ui with
  | idle asleep => cases asleep <;> decide
  | rest asleep => cases asleep <;> decide
  | _ => exact Nat.le_succ _

/-- The UI thread never has more to do than this. -/
lemma rank_le (ui : Host) : ui.rank ≤ 29 := by
  cases ui with
  | idle asleep => cases asleep <;> decide
  | rest asleep => cases asleep <;> decide
  | _ => decide

end Host

/-! ### States of the run -/

/-- The machine with its threads at these places. -/
def shot (inv : Invocation) (index : Nat) (slot : Slot) (m : Machine) (main : Sender) (ui : Host) : Machine :=
  scene inv index m { name := "main", code := main.code }
    { name := "modalbox-ui", code := ui.code inv index slot, asleep := ui.asleep } (ui.queue slot main.posted)
    main.closed (if main.signalled then .ui :: ui.tokens else ui.tokens) (ui.calls inv index) (ui.dialogs inv)

/-- How far the threads can be when the other one is somewhere. -/
def Fits (main : Sender) : Host → Prop
  | .entry => main.waits = true
  | .idle asleep => main.waits = true ∧ (asleep = true → main ≠ .receive)
  | .rest asleep => main.posted = true ∧ main ≠ .closing .done ∧
      (asleep = true → main.signalled = true → main = .closing .signalWake)
  | .returned => main.signalled = true ∧ main ≠ .closing .done
  | .done => main.signalled = true
  | _ => main = .postWake ∨ main = .receive

/-- The machine is in a state of the run, and this far from its end. -/
def Ranked (inv : Invocation) (index : Nat) (slot : Slot) (k : Nat) (m : Machine) : Prop :=
  ∃ main ui, Fits main ui ∧ main.rank + ui.rank = k ∧ shot inv index slot m main ui = m

/-- Waking those who sleep in a run wakes the UI thread, if it sleeps. -/
lemma shot_wake (main : Sender) (ui : Host) :
    ((shot inv index slot m main ui).wake fun i => i matches .pump _) = shot inv index slot m main ui.woken := by
  cases ui with
  | idle asleep => cases asleep <;> rfl
  | rest asleep => cases asleep <;> rfl
  | _ => rfl

/-! ### Steps -/

/-- What the UI thread does next. -/
lemma host_step {main : Sender} {ui : Host} (hslot : Chosen inv index Host.reaction slot) (hf : Fits main ui)
    (h : (shot inv index slot m main ui).exec 1 = some m') :
    ∃ ui', Fits main ui' ∧ ui'.rank < ui.rank ∧ shot inv index slot m' main ui' = m' := by
  cases ui with
  | entry =>
    obtain rfl := Option.some.inj h
    exact ⟨.idle false, ⟨hf, nofun⟩, by decide, rfl⟩
  | idle asleep =>
    cases asleep with
    | true => cases h
    | false =>
      cases main with
      | closing p => cases hf.1
      | post =>
        obtain rfl := Option.some.inj h
        exact ⟨.idle true, ⟨rfl, nofun⟩, by decide, rfl⟩
      | postWake =>
        obtain rfl := Option.some.inj h
        exact ⟨.ask, .inl rfl, by decide, rfl⟩
      | receive =>
        obtain rfl := Option.some.inj h
        exact ⟨.ask, .inr rfl, by decide, rfl⟩
  | ask =>
    obtain rfl := Option.some.inj h
    exact ⟨.activate, hf, by decide, rfl⟩
  | activate =>
    obtain rfl := Option.some.inj h
    exact ⟨.create, hf, by decide, rfl⟩
  | create =>
    obtain rfl := Option.some.inj h
    exact ⟨.present, hf, by decide, rfl⟩
  | present =>
    obtain rfl := Option.some.inj h
    exact ⟨.accept, hf, by decide, rfl⟩
  | accept =>
    obtain rfl := Option.some.inj h
    exact ⟨.exhibit, hf, by decide, rfl⟩
  | exhibit =>
    obtain rfl := Option.some.inj h
    exact ⟨.choose, hf, by decide, rfl⟩
  | choose =>
    have hchoose : (shot inv index slot m main .choose).exec 1 =
        some ((shot inv index slot m main .choose).choose 1 0 ⟨inv.spec.dialog Host.reaction, .nested 0⟩
          Host.outer) := rfl
    rw [hchoose, choose_scheduled hslot.choose hslot.hasSlot] at h
    obtain rfl := Option.some.inj h
    exact ⟨.schedulePress, hf, by decide, rfl⟩
  | schedulePress =>
    rcases hf with rfl | rfl
    · obtain rfl := Option.some.inj h
      exact ⟨.pressWake, .inl rfl, by decide, rfl⟩
    · obtain rfl := Option.some.inj h
      exact ⟨.pressWake, .inr rfl, by decide, rfl⟩
  | pressWake =>
    obtain rfl := Option.some.inj h
    exact ⟨.nest, hf, by decide, rfl⟩
  | nest =>
    obtain rfl := Option.some.inj h
    exact ⟨.wait, hf, by decide, rfl⟩
  | wait =>
    rcases hf with rfl | rfl
    · obtain rfl := Option.some.inj h
      exact ⟨.press, .inl rfl, by decide, rfl⟩
    · obtain rfl := Option.some.inj h
      exact ⟨.press, .inr rfl, by decide, rfl⟩
  | press =>
    have hpress : (shot inv index slot m main .press).exec 1 =
        some ((shot inv index slot m main .press).pressDialog 1 0 slot
          ⟨inv.spec.dialog Host.reaction, .nested 0⟩ Host.nested
          ((shot inv index slot m main .press).goto 1 Host.nested)) := rfl
    rw [hpress, pressDialog_ok hslot.press] at h
    obtain rfl := Option.some.inj h
    exact ⟨.complete, hf, by decide, rfl⟩
  | complete =>
    obtain rfl := Option.some.inj h
    exact ⟨.callWake, hf, by decide, rfl⟩
  | callWake =>
    obtain rfl := Option.some.inj h
    exact ⟨.signal, hf, by decide, rfl⟩
  | signal =>
    rcases hf with rfl | rfl
    · obtain rfl := Option.some.inj h
      exact ⟨.signalWake, .inl rfl, by decide, rfl⟩
    · obtain rfl := Option.some.inj h
      exact ⟨.signalWake, .inr rfl, by decide, rfl⟩
  | signalWake =>
    obtain rfl := Option.some.inj h
    exact ⟨.stop, hf, by decide, rfl⟩
  | stop =>
    rcases hf with rfl | rfl
    · obtain rfl := Option.some.inj h
      exact ⟨.nestLeft, .inl rfl, by decide, rfl⟩
    · obtain rfl := Option.some.inj h
      exact ⟨.nestLeft, .inr rfl, by decide, rfl⟩
  | nestLeft =>
    obtain rfl := Option.some.inj h
    exact ⟨.collect, hf, by decide, rfl⟩
  | collect =>
    obtain rfl := Option.some.inj h
    exact ⟨.deactivate, hf, by decide, rfl⟩
  | deactivate =>
    obtain rfl := Option.some.inj h
    exact ⟨.resolve, hf, by decide, rfl⟩
  | resolve =>
    obtain rfl := Option.some.inj h
    refine ⟨.rest false, ?_, by decide, rfl⟩
    rcases hf with rfl | rfl <;> exact ⟨rfl, nofun, nofun⟩
  | rest asleep =>
    cases asleep with
    | true => cases h
    | false =>
      have hpump : (shot inv index slot m main (.rest false)).exec 1 =
          some ((shot inv index slot m main (.rest false)).pump 1 .ui [.returned .ui false]) := rfl
      rw [hpump, Machine.pump] at h
      cases hs : main.signalled with
      | true =>
        have hui : Token.ui ∈ (shot inv index slot m main (.rest false)).loop.signalled := by
          simp [shot, scene, hs]
        rw [if_pos hui] at h
        obtain rfl := Option.some.inj h
        exact ⟨.returned, ⟨hs, hf.2.1⟩, by decide, rfl⟩
      | false =>
        have hui : Token.ui ∉ (shot inv index slot m main (.rest false)).loop.signalled := by
          simp [shot, scene, hs, Host.tokens]
        rw [if_neg hui] at h
        obtain rfl := Option.some.inj h
        exact ⟨.rest true, ⟨hf.1, hf.2.1, fun _ h => absurd h (by simp [hs])⟩, by decide, rfl⟩
  | returned =>
    obtain rfl := Option.some.inj h
    exact ⟨.done, hf.1, by decide, rfl⟩
  | done => cases h

/-- The threads fit together as before when the UI thread is woken up. -/
lemma Fits.woken {main : Sender} {ui : Host} (hf : Fits main ui) : Fits main ui.woken := by
  cases ui with
  | idle asleep => exact ⟨hf.1, nofun⟩
  | rest asleep => exact ⟨hf.1, hf.2.1, nofun⟩
  | _ => exact hf

/-- While the main thread stops the UI thread, that has nothing else to do. -/
lemma Fits.of_closing {p : Closing} {ui : Host} (hf : Fits (.closing p) ui) :
    (∃ asleep, ui = .rest asleep) ∨ p.signalled = true ∧ (ui = .returned ∨ ui = .done) := by
  cases ui with
  | entry => cases hf
  | idle asleep => cases hf.1
  | rest asleep => exact .inl ⟨asleep, rfl⟩
  | returned => exact .inr ⟨hf.1, .inl rfl⟩
  | done => exact .inr ⟨hf, .inr rfl⟩
  | _ => rcases hf with h | h <;> cases h

/-- A wake-up by the main thread: it goes on, and the UI thread is awake. -/
lemma sender_wakes {main : Sender} {ui : Host} (main' : Sender) (hf : Fits main' ui.woken)
    (hwakes : (shot inv index slot m main ui).exec 0 =
      some (((shot inv index slot m main ui).wake fun i => i matches .pump _).goto 0 main'.code))
    (hgoto : (shot inv index slot m main ui.woken).goto 0 main'.code = shot inv index slot m main' ui.woken)
    (hrank : main.rank = main'.rank + 2) (h : (shot inv index slot m main ui).exec 0 = some m') :
    ∃ main' ui', Fits main' ui' ∧ main'.rank + ui'.rank < main.rank + ui.rank ∧
      shot inv index slot m' main' ui' = m' := by
  rw [hwakes, shot_wake, hgoto] at h
  obtain rfl := Option.some.inj h
  have := ui.rank_woken
  exact ⟨main', ui.woken, hf, by omega, rfl⟩

/-- What the main thread does next. -/
lemma sender_step {main : Sender} {ui : Host} (hf : Fits main ui)
    (h : (shot inv index slot m main ui).exec 0 = some m') :
    ∃ main' ui', Fits main' ui' ∧ main'.rank + ui'.rank < main.rank + ui.rank ∧
      shot inv index slot m' main' ui' = m' := by
  cases main with
  | post =>
    cases ui with
    | entry =>
      obtain rfl := Option.some.inj h
      exact ⟨.postWake, .entry, rfl, by decide, rfl⟩
    | idle asleep =>
      obtain rfl := Option.some.inj h
      exact ⟨.postWake, .idle asleep, ⟨rfl, nofun⟩, Nat.add_lt_add_right (by decide) _, rfl⟩
    | rest asleep => cases hf.1
    | returned => cases hf.1
    | done => cases hf
    | _ => rcases hf with h | h <;> cases h
  | postWake =>
    refine sender_wakes .receive ?_ rfl rfl rfl h
    cases ui with
    | entry => exact rfl
    | idle asleep => exact ⟨rfl, nofun⟩
    | rest asleep => exact ⟨rfl, nofun, nofun⟩
    | returned => cases hf.1
    | done => cases hf
    | _ => exact .inr rfl
  | receive =>
    cases ui with
    | rest asleep =>
      obtain rfl := Option.some.inj h
      exact ⟨.closing .close, .rest asleep, ⟨rfl, nofun, nofun⟩, Nat.add_lt_add_right (by decide) _, rfl⟩
    | returned => cases hf.1
    | done => cases hf
    | _ => cases h
  | closing p =>
    have hui := hf.of_closing
    cases p with
    | close =>
      obtain rfl := Option.some.inj h
      refine ⟨.closing .closeWake, ui, ?_, Nat.add_lt_add_right (by decide) _, rfl⟩
      rcases hui with ⟨asleep, rfl⟩ | ⟨hs, -⟩
      · exact ⟨rfl, nofun, nofun⟩
      · cases hs
    | closeWake =>
      refine sender_wakes (.closing .signal) ?_ rfl rfl rfl h
      rcases hui with ⟨asleep, rfl⟩ | ⟨hs, -⟩
      · exact ⟨rfl, nofun, nofun⟩
      · cases hs
    | signal =>
      obtain rfl := Option.some.inj h
      refine ⟨.closing .signalWake, ui, ?_, Nat.add_lt_add_right (by decide) _, rfl⟩
      rcases hui with ⟨asleep, rfl⟩ | ⟨hs, -⟩
      · exact ⟨rfl, nofun, fun _ _ => rfl⟩
      · cases hs
    | signalWake =>
      refine sender_wakes (.closing .join) ?_ rfl rfl rfl h
      rcases hui with ⟨asleep, rfl⟩ | ⟨-, rfl | rfl⟩
      · exact ⟨rfl, nofun, nofun⟩
      · exact ⟨rfl, nofun⟩
      · exact rfl
    | join =>
      rcases hui with ⟨asleep, rfl⟩ | ⟨-, rfl | rfl⟩
      · cases h
      · cases h
      · obtain rfl := Option.some.inj h
        exact ⟨.closing .done, .done, rfl, by decide, rfl⟩
    | done => cases h

/-! ### The run -/

/-- The UI thread stops only to sleep or for good. -/
lemma host_stuck {main : Sender} {ui : Host} (h : (shot inv index slot m main ui).exec 1 = none) :
    ui = .idle true ∨ ui = .rest true ∨ ui = .done := by
  cases ui with
  | idle asleep =>
    cases asleep with
    | false => cases h
    | true => exact .inl rfl
  | rest asleep =>
    cases asleep with
    | false => cases h
    | true => exact .inr (.inl rfl)
  | done => exact .inr (.inr rfl)
  | _ => cases h

/-- When neither thread can go on, both have ended. -/
lemma shot_stuck {main : Sender} {ui : Host} (hf : Fits main ui)
    (h : (shot inv index slot m main ui).Stuck) : main = .closing .done ∧ ui = .done := by
  have hmain := h 0
  rcases host_stuck (h 1) with rfl | rfl | rfl
  · cases main with
    | receive => exact absurd rfl (hf.2 rfl)
    | closing p => cases hf.1
    | _ => cases hmain
  · cases main with
    | closing p =>
      cases p with
      | join => cases hf.2.2 rfl rfl
      | done => exact absurd rfl hf.2.1
      | _ => cases hmain
    | _ => cases hmain
  · cases main with
    | closing p =>
      cases p with
      | done => exact ⟨rfl, rfl⟩
      | _ => cases hmain
    | _ => cases hmain

/-- The outcome of the call is the requested button, as soon as the call is resolved. -/
lemma shot_outcome? (main : Sender) (ui : Host) :
    outcome? (shot inv index slot m main ui) = if ui.resolved then some (requested inv index) else none := by
  cases ui <;> rfl

/-- Rousing a thread wakes the UI thread up, or does nothing. -/
lemma shot_rouse (main : Sender) (ui : Host) (t : ThreadId) :
    (shot inv index slot m main ui).rouse t = shot inv index slot m main ui ∨
      (shot inv index slot m main ui).rouse t = shot inv index slot m main ui.woken := by
  match t with
  | 0 => exact .inl rfl
  | 1 =>
    right
    cases ui <;> rfl
  | t + 2 => exact .inl (rouse_beyond (Nat.le_add_left ..))

/-- A run on the UI thread ends with the requested button. -/
lemma reliable (hslot : Chosen inv index Host.reaction slot) : Reliable inv index (Ranked inv index slot) where
  descent := by
    rintro k m t m' ⟨main, ui, hf, rfl, hm⟩ h
    rw [← hm] at h
    match t with
    | 0 =>
      obtain ⟨main', ui', hf', hrank, hm'⟩ := sender_step hf h
      exact ⟨_, hrank, main', ui', hf', rfl, hm'⟩
    | 1 =>
      obtain ⟨ui', hf', hrank, hm'⟩ := host_step hslot hf h
      exact ⟨_, Nat.add_lt_add_left hrank _, main, ui', hf', rfl, hm'⟩
    | t + 2 => cases h
  rouse := by
    rintro k m t ⟨main, ui, hf, rfl, hm⟩
    rw [← hm]
    rcases shot_rouse main ui t with h | h
    · exact ⟨_, main, ui, hf, rfl, by rw [h]; rfl⟩
    · exact ⟨_, main, ui.woken, hf.woken, rfl, by rw [h]; rfl⟩
  pass := by
    rintro k m ms ⟨main, ui, hf, rfl, hm⟩
    exact ⟨main, ui, hf, rfl, congrArg (fun m : Machine => { m with clock := m.clock + ms }) hm⟩
  bound := by
    rintro k m ⟨main, ui, -, rfl, -⟩
    exact Nat.lt_of_le_of_lt (Nat.add_le_add main.rank_le ui.rank_le) (by decide)
  pending := by
    rintro k m ⟨main, ui, -, -, hm⟩
    rw [← hm]
    rfl
  expects := by
    rintro k m o ⟨main, ui, -, -, hm⟩ ho
    rw [← hm, shot_outcome?] at ho
    split at ho
    · exact .inl (Option.some.inj ho).symm
    · cases ho
  stops := by
    rintro k m ⟨main, ui, hf, -, hm⟩ h
    rw [← hm] at h ⊢
    obtain ⟨rfl, rfl⟩ := shot_stuck hf h
    exact ⟨rfl, rfl, rfl⟩

/-- On the UI thread, the program of a headless run is the code that the main thread begins with. -/
lemma load_program (hworker : inv.worker = false) : load inv.headlessProgram = Sender.post.code := by
  rw [headlessProgram, hworker]
  rfl

/-- A machine whose UI thread has claimed the loop is in a state of the run. -/
lemma ranked_launched (hworker : inv.worker = false) : ∃ k, Ranked inv index slot k (inv.launched index) := by
  refine ⟨_, .post, .entry, rfl, rfl, ?_⟩
  rw [launched, opening, load_program hworker]
  rfl

/-- A machine whose UI thread waits for tasks is in a state of the run. -/
lemma ranked_waiting (hworker : inv.worker = false) : ∃ k, Ranked inv index slot k (inv.waiting index) := by
  refine ⟨_, .post, .idle true, ⟨rfl, nofun⟩, rfl, ?_⟩
  rw [← opening_waiting, opening, load_program hworker]
  rfl

end MessageBox.Invocation.OnUiThread
