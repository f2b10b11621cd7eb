import MessageBox.Proofs.Headless.Scene

/-!
# A headless run on a worker

The main thread posts a task that shows the dialog and waits for the answer, at most as long as the limit of the
wait. The UI thread takes the task, has the responder post the press, and takes that. If the main thread has
given up, the loop is closed beneath it: the task is never taken, the press is refused or stays in the queue, or
the answer comes too late. A state of the run is where the two threads are (`Caller`, `Host`).
-/

namespace MessageBox.Invocation.OnWorker

open Machine

variable {inv : Invocation} {index : Nat} {slot : Slot} {m m' : Machine}

/-! ### Where the threads are -/

/-- Where the main thread is. Once it has left its wait, it has taken the answer or has run out of time. -/
inductive Caller where
  | ask
  | activate
  | schedule
  | scheduleWake
  | beginWait
  | await (deadline : Option Nat) (asleep : Bool)
  | deactivate (took : Bool)
  | resolve (took : Bool)
  | closing (took : Bool) (p : Closing)

/-- The outcome of a wait. -/
def outcome (inv : Invocation) (index : Nat) (took : Bool) : Outcome :=
  if took then requested inv index else .timedOut

namespace Caller

/-- What the main thread still has to do. -/
def code (inv : Invocation) (index : Nat) : Caller → List Instr
  | .ask => .op (.ask 0 (.caller caller)) :: Closing.close.code
  | .activate => .activate 0 :: .schedule 0 :: Closing.close.code
  | .schedule => .schedule 0 :: Closing.close.code
  | .scheduleWake => .wakeLoop :: .beginWait 0 :: Closing.close.code
  | .beginWait => .beginWait 0 :: Closing.close.code
  | .await deadline _ => .await 0 deadline :: Closing.close.code
  | .deactivate took => .deactivate 0 (outcome inv index took) :: Closing.close.code
  | .resolve took => .resolve 0 (outcome inv index took) :: Closing.close.code
  | .closing _ p => p.code

/-- Whether the main thread sleeps. -/
def asleep : Caller → Bool
  | .await _ asleep => asleep
  | _ => false

/-- The main thread after somebody has woken it up. -/
def woken : Caller → Caller
  | .await deadline _ => .await deadline false
  | main => main

/-- Whether the loop is closed. -/
def closed : Caller → Bool
  | .closing _ p => p.closed
  | _ => false

/-- Whether the UI thread has been told to stop. -/
def signalled : Caller → Bool
  | .closing _ p => p.signalled
  | _ => false

/-- Whether the task has been posted. -/
def posted : Caller → Bool
  | .ask | .activate | .schedule => false
  | _ => true

/-- Whether the answer has been taken. -/
def took : Caller → Bool
  | .deactivate took | .resolve took | .closing took _ => took
  | _ => false

/-- Whether the main thread has not ended. -/
def running : Caller → Bool
  | .closing _ .done => false
  | _ => true

/-- Who waits for a limited time, or has run out of it, has a limit. -/
def Limited (inv : Invocation) : Caller → Prop
  | .await deadline _ => deadline.isSome = true → inv.options.waitLimit.isSome = true
  | .deactivate took | .resolve took | .closing took _ => took = false → inv.options.waitLimit.isSome = true
  | _ => True

/-- How the call is resolved, if it is. -/
def result (inv : Invocation) (index : Nat) : Caller → Option Outcome
  | .closing took _ => some (outcome inv index took)
  | _ => none

/-- A bound on what the main thread still has to do. -/
def rank : Caller → Nat
  | .ask => 30
  | .activate => 28
  | .schedule => 26
  | .scheduleWake => 24
  | .beginWait => 22
  | .await _ asleep => if asleep then 19 else 20
  | .deactivate _ => 16
  | .resolve _ => 14
  | .closing _ p => p.rank

/-- The main thread never has more to do than this. -/
lemma rank_le (main : Caller) : main.rank ≤ 30 := by
  cases main with
  | await deadline asleep => cases asleep <;> exact of_decide_eq_true rfl
  | closing took p => exact Nat.le_trans p.rank_le (by decide)
  | _ => exact of_decide_eq_true rfl

/-- Being woken up gives the main thread one more thing to do at most. -/
lemma rank_woken (main : Caller) : main.woken.rank ≤ main.rank + 1 := by
  cases main with
  | await deadline asleep => cases asleep <;> exact of_decide_eq_true rfl
  | _ => exact Nat.le_succ _

end Caller

/-- Where the UI thread is while it has nothing to do for the call. -/
inductive Pause where
  | entry
  | pump (asleep : Bool)
  | returned
  | done

namespace Pause

/-- What the UI thread still has to do. -/
def code : Pause → List Instr
  | .entry => [.op (.run .ui false)]
  | .pump _ => [.pump .ui, .returned .ui false]
  | .returned => [.returned .ui false]
  | .done => []

/-- Whether the run of the loop is over. -/
def stopped : Pause → Bool
  | .returned | .done => true
  | _ => false

/-- A bound on what the UI thread still has to do. -/
def rank : Pause → Nat
  | .entry => 5
  | .pump asleep => if asleep then 3 else 4
  | .returned => 1
  | .done => 0

end Pause

/-- How far the call has come when the UI thread has nothing to do for it. -/
inductive Status where
  | unasked
  | scheduled
  | answered
  | released

/-- Where the UI thread is. -/
inductive Host where
  | rest (s : Status) (p : Pause)
  | create
  | present
  | accept
  | exhibit
  | choose
  | schedulePress
  | pressWake
  | press
  | complete
  | callWake
  | report
  | release
  | releaseWake

namespace Host

/-- The run of the loop. -/
def loop : List Instr := [.pump .ui, .returned .ui false]

/-- What the UI thread still has to do. -/
def code (index : Nat) (slot : Slot) : Host → List Instr
  | .rest _ p => p.code
  | .create => .create 0 :: loop
  | .present => .present 0 :: loop
  | .accept => .accept 0 :: loop
  | .exhibit => .exhibit 0 :: loop
  | .choose => .choose 0 :: loop
  | .schedulePress => .schedulePress 0 slot :: loop
  | .pressWake => .wakeLoop :: loop
  | .press => .pressChosen 0 slot :: loop
  | .complete => .complete 0 (index + 1) :: loop
  | .callWake => .wakeCall 0 :: loop
  | .report => .report .closed :: .release 0 :: .wakeCall 0 :: loop
  | .release => .release 0 :: .wakeCall 0 :: loop
  | .releaseWake => .wakeCall 0 :: loop

/-- Whether the UI thread sleeps. -/
def asleep : Host → Bool
  | .rest _ (.pump asleep) => asleep
  | _ => false

/-- The UI thread after somebody has woken it up. -/
def woken : Host → Host
  | .rest s (.pump _) => .rest s (.pump false)
  | ui => ui

/-- What has been recorded for the call. -/
def handoff (index : Nat) (took : Bool) : Host → Handoff Nat
  | .callWake | .rest .answered _ => { value := some (index + 1), permits := if took then 0 else 1 }
  | .releaseWake | .rest .released _ => { permits := 1 }
  | _ => {}

/-- What a button of the dialog does. -/
def reaction (code : Nat) : Reaction := .answer 0 code false

/-- The dialogs so far. -/
def dialogs (inv : Invocation) : Host → List Offer
  | .rest .unasked _ | .create => []
  | _ => [⟨inv.spec.dialog reaction, .posted 0⟩]

/-- The tasks in the queue. -/
def queue (slot : Slot) (posted : Bool) : Host → List Task
  | .rest .unasked _ => if posted then [[.create 0]] else []
  | .rest .scheduled _ | .pressWake => [[.pressChosen 0 slot]]
  | _ => []

/-- Whether the answer has been recorded. -/
def answered : Host → Bool
  | .callWake | .rest .answered _ => true
  | _ => false

/-- A bound on what the UI thread still has to do. -/
def rank : Host → Nat
  | .rest .unasked p => p.rank + 30
  | .create => 29
  | .present => 28
  | .accept => 27
  | .exhibit => 26
  | .choose => 25
  | .schedulePress => 24
  | .pressWake => 23
  | .rest .scheduled p => p.rank + 16
  | .press => 15
  | .complete => 14
  | .callWake => 13
  | .report => 12
  | .release => 11
  | .releaseWake => 10
  | .rest .answered p | .rest .released p => p.rank

/-- The UI thread never has more to do than this. -/
lemma rank_le (ui : Host) : ui.rank ≤ 35 := by
  cases ui with
  | rest s p =>
    cases p with
    | pump asleep => cases asleep <;> cases s <;> decide
    | _ => cases s <;> decide
  | _ => decide

/-- Being woken up gives the UI thread one more thing to do at most. -/
lemma rank_woken (ui : Host) : ui.woken.rank ≤ ui.rank + 1 := by
  cases ui with
  | rest s p =>
    cases p with
    | pump asleep => cases asleep <;> cases s <;> decide
    | _ => exact Nat.le_succ _
  | _ => exact Nat.le_succ _

end Host

/-- The call. -/
def call (inv : Invocation) (index : Nat) (main : Caller) (ui : Host) : Call :=
  { prompt := 0
    spec := inv.spec
    options := inv.options
    context := .worker
    ticket := .caller caller
    handoff := ui.handoff index main.took
    outcome := main.result inv index }

/-- The calls so far. -/
def calls (inv : Invocation) (index : Nat) (ui : Host) (main : Caller) : List Call :=
  match main with
  | .ask => []
  | main => [call inv index main ui]

/-! ### States of the run -/

/-- The machine with its threads at these places. -/
def shot (inv : Invocation) (index : Nat) (slot : Slot) (m : Machine) (main : Caller) (ui : Host) : Machine :=
  scene inv index m { name := "main", code := main.code inv index, asleep := main.asleep }
    { name := "modalbox-ui", code := ui.code index slot, asleep := ui.asleep } (ui.queue slot main.posted)
    main.closed (if main.signalled then [.ui] else []) (calls inv index ui main) (ui.dialogs inv)

/-- How far the main thread can be while the UI thread has nothing to do. -/
structure Pauses (main : Caller) (p : Pause) : Prop where
  running : main.running = false → p = .done
  stopped : p.stopped = true → main.signalled = true
  asleep : p = .pump true → main.signalled = true → ∃ took, main = .closing took .signalWake

/-- How far the main thread can be when the call has come so far. -/
def Stands (main : Caller) (p : Pause) : Status → Prop
  | .unasked => main.took = false ∧ (p = .pump true → main.posted = true → main = .scheduleWake)
  | .scheduled => main.posted = true ∧ main.took = false ∧ p ≠ .pump true
  | .answered => main.posted = true ∧ main.asleep = false
  | .released => main.closed = true ∧ main.took = false

/-- How far the threads can be when the other one is somewhere. -/
def Fits (main : Caller) : Host → Prop
  | .rest s p => Pauses main p ∧ Stands main p s
  | .callWake => main.running = true ∧ main.posted = true
  | .report | .release | .releaseWake => main.running = true ∧ main.took = false ∧ main.closed = true
  | _ => main.running = true ∧ main.took = false ∧ main.posted = true

/-- The machine is in a state of the run, and this far from its end. -/
def Ranked (inv : Invocation) (index : Nat) (slot : Slot) (k : Nat) (m : Machine) : Prop :=
  ∃ main ui, Fits main ui ∧ main.Limited inv ∧ main.rank + ui.rank = k ∧ shot inv index slot m main ui = m

/-! ### Wake-ups -/

namespace Caller

/-- Waking the main thread does not change whether its task has been posted. -/
lemma woken_posted (main : Caller) : main.woken.posted = main.posted := by
  cases main <;> rfl

/-- Waking the main thread does not change whether it has ended. -/
lemma woken_running (main : Caller) : main.woken.running = main.running := by
  cases main <;> rfl

/-- A main thread that was woken up does not sleep. -/
lemma woken_asleep (main : Caller) : main.woken.asleep = false := by
  cases main <;> rfl

/-- Waking the main thread does not change for how long it waits. -/
lemma Limited.woken {main : Caller} (h : main.Limited inv) : main.woken.Limited inv := by
  cases main <;> exact h

end Caller

/-- Who wakes the UI thread up leaves the main thread alone. -/
lemma main_stays (main : Caller) :
    wokenBy (fun i => i matches .pump _) { name := "main", code := main.code inv index, asleep := main.asleep } =
      { name := "main", code := main.code inv index, asleep := main.asleep } := by
  cases main with
  | await deadline asleep => cases asleep <;> rfl
  | _ => rfl

/-- Waking those who sleep in a run wakes the UI thread, if it sleeps. -/
lemma shot_wake (main : Caller) (ui : Host) :
    ((shot inv index slot m main ui).wake fun i => i matches .pump _) = shot inv index slot m main ui.woken := by
  cases ui with
  | rest s p =>
    cases p with
    | pump asleep => cases asleep <;> cases s <;> exact scene_wake (main_stays main) rfl
    | _ => exact scene_wake (main_stays main) rfl
  | _ => exact scene_wake (main_stays main) rfl

/-- The notification of an answer wakes the main thread up. -/
lemma shot_callWake (main : Caller) :
    ((shot inv index slot m main .callWake).wake fun i => match i with | .await d _ => 0 == d | _ => false) =
      shot inv index slot m main.woken .callWake := by
  cases main with
  | await deadline asleep => cases asleep <;> rfl
  | _ => rfl

/-! ### Steps of the UI thread -/

/-- The main thread has not ended while the UI thread has not. -/
lemma Pauses.awake {main : Caller} {p : Pause} (h : Pauses main p) (hp : p ≠ .done) :
    main.running = true := by
  cases hr : main.running with
  | true => rfl
  | false => exact absurd (h.running hr) hp

/-- The UI thread begins to wait for a task. -/
lemma pauses_awake {main : Caller} (h : main.running = true) : Pauses main (.pump false) :=
  ⟨fun h' => by simp [h] at h', nofun, nofun⟩

/-- The UI thread moves on without going to sleep. -/
lemma Stands.move {main : Caller} {p p' : Pause} {s : Status} (h : Stands main p s) (hp : p' ≠ .pump true) :
    Stands main p' s := by
  cases s with
  | unasked => exact ⟨h.1, fun h => absurd h hp⟩
  | scheduled => exact ⟨h.1, h.2.1, hp⟩
  | answered => exact h
  | released => exact h

/-- What the UI thread does next while it has nothing to do for the call. -/
lemma rest_step {main : Caller} {s : Status} {p : Pause} (hf : Fits main (.rest s p))
    (h : (shot inv index slot m main (.rest s p)).exec 1 = some m') :
    ∃ ui', Fits main ui' ∧ ui'.rank < (Host.rest s p).rank ∧ shot inv index slot m' main ui' = m' := by
  obtain ⟨hpauses, hstands⟩ := hf
  cases p with
  | entry =>
    obtain rfl := Option.some.inj h
    refine ⟨.rest s (.pump false), ⟨pauses_awake (hpauses.awake nofun), hstands.move nofun⟩, ?_, ?_⟩
    · cases s <;> exact of_decide_eq_true rfl
    · cases s <;> rfl
  | pump asleep =>
    cases asleep with
    | true => cases h
    | false =>
      have hrun := hpauses.awake nofun
      have hpump : (shot inv index slot m main (.rest s (.pump false))).exec 1 =
          some ((shot inv index slot m main (.rest s (.pump false))).pump 1 .ui [.returned .ui false]) := rfl
      rw [hpump, Machine.pump] at h
      cases hs : main.signalled with
      | true =>
        have hui : Token.ui ∈ (shot inv index slot m main (.rest s (.pump false))).loop.signalled := by
          simp [shot, scene, hs]
        rw [if_pos hui] at h
        obtain rfl := Option.some.inj h
        refine ⟨.rest s .returned, ⟨⟨fun h' => by simp [hrun] at h', fun _ => hs, nofun⟩, hstands.move nofun⟩,
          ?_, ?_⟩
        · cases s <;> exact of_decide_eq_true rfl
        · cases s <;> rfl
      | false =>
        have hui : Token.ui ∉ (shot inv index slot m main (.rest s (.pump false))).loop.signalled := by
          simp [shot, scene, hs]
        have hsleeps : Pauses main (.pump true) :=
          ⟨fun h' => by simp [hrun] at h', nofun, fun _ h' => by simp [hs] at h'⟩
        rw [if_neg hui] at h
        cases s with
        | unasked =>
          have hqueue : (shot inv index slot m main (.rest .unasked (.pump false))).loop.queue =
              if main.posted then [[.create 0]] else [] := rfl
          cases hp : main.posted with
          | true =>
            rw [hqueue, hp] at h
            obtain rfl := Option.some.inj h
            exact ⟨.create, ⟨hrun, hstands.1, hp⟩, by decide, rfl⟩
          | false =>
            rw [hqueue, hp] at h
            obtain rfl := Option.some.inj h
            exact ⟨.rest .unasked (.pump true), ⟨hsleeps, hstands.1, fun _ h' => by simp [hp] at h'⟩,
              by decide, rfl⟩
        | scheduled =>
          obtain rfl := Option.some.inj h
          exact ⟨.press, ⟨hrun, hstands.2.1, hstands.1⟩, by decide, rfl⟩
        | answered =>
          obtain rfl := Option.some.inj h
          exact ⟨.rest .answered (.pump true), ⟨hsleeps, hstands⟩, by decide, rfl⟩
        | released =>
          obtain rfl := Option.some.inj h
          exact ⟨.rest .released (.pump true), ⟨hsleeps, hstands⟩, by decide, rfl⟩
  | returned =>
    obtain rfl := Option.some.inj h
    refine ⟨.rest s .done, ⟨⟨fun _ => rfl, fun _ => hpauses.stopped rfl, nofun⟩, hstands.move nofun⟩, ?_, ?_⟩
    · cases s <;> exact of_decide_eq_true rfl
    · cases s <;> rfl
  | done => cases h

/-- What the UI thread does next. It may wake the main thread up. -/
lemma host_step {main : Caller} {ui : Host} (hslot : Chosen inv index Host.reaction slot) (hf : Fits main ui)
    (h : (shot inv index slot m main ui).exec 1 = some m') :
    ∃ main' ui', Fits main' ui' ∧ (main.Limited inv → main'.Limited inv) ∧
      main'.rank + ui'.rank < main.rank + ui.rank ∧ shot inv index slot m' main' ui' = m' := by
  cases ui with
  | rest s p =>
    obtain ⟨ui', hf', hrank, hm'⟩ := rest_step hf h
    exact ⟨main, ui', hf', id, Nat.add_lt_add_left hrank _, hm'⟩
  | create =>
    cases main with
    | ask => cases hf.2.2
    | _ =>
      obtain rfl := Option.some.inj h
      exact ⟨_, .present, hf, id, Nat.add_lt_add_left (by decide) _, rfl⟩
  | present =>
    obtain rfl := Option.some.inj h
    exact ⟨main, .accept, hf, id, Nat.add_lt_add_left (by decide) _, rfl⟩
  | accept =>
    obtain rfl := Option.some.inj h
    exact ⟨main, .exhibit, hf, id, Nat.add_lt_add_left (by decide) _, rfl⟩
  | exhibit =>
    obtain rfl := Option.some.inj h
    exact ⟨main, .choose, hf, id, Nat.add_lt_add_left (by decide) _, rfl⟩
  | choose =>
    have hchoose : (shot inv index slot m main .choose).exec 1 =
        some ((shot inv index slot m main .choose).choose 1 0 ⟨inv.spec.dialog Host.reaction, .posted 0⟩
          Host.loop) := rfl
    rw [hchoose, choose_scheduled hslot.choose hslot.hasSlot] at h
    obtain rfl := Option.some.inj h
    exact ⟨main, .schedulePress, hf, id, Nat.add_lt_add_left (by decide) _, rfl⟩
  | schedulePress =>
    have hpost : (shot inv index slot m main .schedulePress).exec 1 =
        some ((shot inv index slot m main .schedulePress).schedulePress 1 0 slot
          ⟨inv.spec.dialog Host.reaction, .posted 0⟩ Host.loop) := rfl
    have hloop : (shot inv index slot m main .schedulePress).loop.closed = main.closed := rfl
    rw [hpost, Machine.schedulePress, Loop.post] at h
    cases hc : main.closed with
    | true =>
      rw [if_pos (hloop.trans hc)] at h
      obtain rfl := Option.some.inj h
      exact ⟨main, .report, ⟨hf.1, hf.2.1, hc⟩, id, Nat.add_lt_add_left (by decide) _, rfl⟩
    | false =>
      rw [if_neg (by rw [hloop, hc]; decide)] at h
      obtain rfl := Option.some.inj h
      exact ⟨main, .pressWake, hf, id, Nat.add_lt_add_left (by decide) _, rfl⟩
  | pressWake =>
    have hwake : (shot inv index slot m main .pressWake).exec 1 =
        some (((shot inv index slot m main .pressWake).wake fun i => i matches .pump _).goto 1 Host.loop) := rfl
    rw [hwake, shot_wake] at h
    obtain rfl := Option.some.inj h
    exact ⟨main, .rest .scheduled (.pump false), ⟨pauses_awake hf.1, hf.2.2, hf.2.1, nofun⟩, id,
      Nat.add_lt_add_left (by decide) _, rfl⟩
  | press =>
    have hpress : (shot inv index slot m main .press).exec 1 =
        some ((shot inv index slot m main .press).pressDialog 1 0 slot
          ⟨inv.spec.dialog Host.reaction, .posted 0⟩ Host.loop
          ((shot inv index slot m main .press).goto 1 Host.loop)) := rfl
    rw [hpress, pressDialog_ok hslot.press] at h
    obtain rfl := Option.some.inj h
    exact ⟨main, .complete, hf, id, Nat.add_lt_add_left (by decide) _, rfl⟩
  | complete =>
    cases main with
    | ask => cases hf.2.2
    | deactivate took | resolve took | closing took p =>
      obtain rfl : took = false := hf.2.1
      obtain rfl := Option.some.inj h
      exact ⟨_, .callWake, ⟨hf.1, hf.2.2⟩, id, Nat.add_lt_add_left (by decide) _, rfl⟩
    | _ =>
      obtain rfl := Option.some.inj h
      exact ⟨_, .callWake, ⟨hf.1, hf.2.2⟩, id, Nat.add_lt_add_left (by decide) _, rfl⟩
  | callWake =>
    have hwake : (shot inv index slot m main .callWake).exec 1 =
        some (((shot inv index slot m main .callWake).wake
          fun i => match i with | .await d _ => 0 == d | _ => false).goto 1 Host.loop) := rfl
    rw [hwake, shot_callWake] at h
    obtain rfl := Option.some.inj h
    have hrank : main.woken.rank + 4 < main.rank + 13 := by
      have := main.rank_woken
      omega
    exact ⟨main.woken, .rest .answered (.pump false),
      ⟨pauses_awake (main.woken_running ▸ hf.1), main.woken_posted ▸ hf.2, main.woken_asleep⟩,
      Caller.Limited.woken, hrank, rfl⟩
  | report =>
    obtain rfl := Option.some.inj h
    exact ⟨main, .release, hf, id, Nat.add_lt_add_left (by decide) _, rfl⟩
  | release =>
    cases main with
    | closing took p =>
      obtain rfl := Option.some.inj h
      exact ⟨_, .releaseWake, hf, id, Nat.add_lt_add_left (by decide) _, rfl⟩
    | _ => cases hf.2.2
  | releaseWake =>
    cases main with
    | closing took p =>
      obtain rfl := Option.some.inj h
      exact ⟨_, .rest .released (.pump false), ⟨pauses_awake hf.1, hf.2.2, hf.2.1⟩, id,
        Nat.add_lt_add_left (by decide) _, rfl⟩
    | _ => cases hf.2.2

/-! ### Steps of the main thread -/

/-- Until the task is posted, the UI thread has nothing to do. -/
lemma Fits.of_unposted {main : Caller} {ui : Host} (hf : Fits main ui) (hp : main.posted = false)
    (hc : main.closed = false) : ∃ p, ui = .rest .unasked p := by
  cases ui with
  | rest s p =>
    cases s with
    | unasked => exact ⟨p, rfl⟩
    | scheduled => exact absurd hf.2.1 (by simp [hp])
    | answered => exact absurd hf.2.1 (by simp [hp])
    | released => exact absurd hf.2.1 (by simp [hc])
  | callWake => exact absurd hf.2 (by simp [hp])
  | report | release | releaseWake => exact absurd hf.2.2 (by simp [hc])
  | _ => exact absurd hf.2.2 (by simp [hp])

/-- A step of the main thread that takes nothing back keeps the threads apart as far as they can be. -/
lemma Fits.move {main main' : Caller} {ui : Host} (hf : Fits main ui) (hrunning : main'.running = true)
    (hposted : main.posted = true → main'.posted = true)
    (htook : ui.answered = false → main.took = false → main'.took = false)
    (hclosed : main.closed = true → main'.closed = true)
    (hsignalled : main.signalled = true → main'.signalled = true)
    (hawake : ui.answered = true → main'.asleep = false)
    (hpump : ∀ s, ui = .rest s (.pump true) →
      (main'.signalled = true → ∃ took, main' = .closing took .signalWake) ∧
        (s = .unasked → main'.posted = true → main' = .scheduleWake)) : Fits main' ui := by
  cases ui with
  | rest s p =>
    obtain ⟨hpauses, hstands⟩ := hf
    refine ⟨⟨fun h => by simp [hrunning] at h, fun h => hsignalled (hpauses.stopped h), ?_⟩, ?_⟩
    · rintro rfl
      exact (hpump s rfl).1
    · cases s with
      | unasked =>
        refine ⟨htook rfl hstands.1, ?_⟩
        rintro rfl
        exact (hpump _ rfl).2 rfl
      | scheduled => exact ⟨hposted hstands.1, htook rfl hstands.2.1, hstands.2.2⟩
      | answered => exact ⟨hposted hstands.1, hawake rfl⟩
      | released => exact ⟨hclosed hstands.1, htook rfl hstands.2⟩
  | callWake => exact ⟨hrunning, hposted hf.2⟩
  | report | release | releaseWake => exact ⟨hrunning, htook rfl hf.2.1, hclosed hf.2.2⟩
  | _ => exact ⟨hrunning, htook rfl hf.2.1, hposted hf.2.2⟩

/-- A UI thread that was woken up does not sleep in its run. -/
lemma Host.woken_ne {ui : Host} {s : Status} : ui.woken ≠ .rest s (.pump true) := by
  cases ui with
  | rest s' p => cases p <;> nofun
  | _ => nofun

/-- The threads fit together as before when the UI thread is woken up. -/
lemma Fits.woken {main : Caller} {ui : Host} (hf : Fits main ui) : Fits main ui.woken := by
  cases ui with
  | rest s p =>
    cases p with
    | pump asleep => exact ⟨pauses_awake (hf.1.awake nofun), hf.2.move nofun⟩
    | _ => exact hf
  | _ => exact hf

/-- Once the task is posted and its wake-up made, the UI thread does not sleep over it. -/
lemma Fits.awake {main : Caller} {ui : Host} (hf : Fits main ui) (hposted : main.posted = true)
    (hne : main ≠ .scheduleWake) {s : Status} (hui : ui = .rest s (.pump true)) : s ≠ .unasked := by
  rintro rfl
  subst hui
  exact hne (hf.2.2 rfl hposted)

/-- A wake-up by the main thread: it goes on, and the UI thread is awake. -/
lemma caller_wakes {main : Caller} {ui : Host} (main' : Caller) (hf : Fits main' ui.woken)
    (hlimited : main.Limited inv → main'.Limited inv)
    (hwakes : (shot inv index slot m main ui).exec 0 =
      some (((shot inv index slot m main ui).wake fun i => i matches .pump _).goto 0 (main'.code inv index)))
    (hgoto : (shot inv index slot m main ui.woken).goto 0 (main'.code inv index) =
      shot inv index slot m main' ui.woken)
    (hrank : main.rank = main'.rank + 2) (h : (shot inv index slot m main ui).exec 0 = some m') :
    ∃ main' ui', Fits main' ui' ∧ (main.Limited inv → main'.Limited inv) ∧
      main'.rank + ui'.rank < main.rank + ui.rank ∧ shot inv index slot m' main' ui' = m' := by
  rw [hwakes, shot_wake, hgoto] at h
  obtain rfl := Option.some.inj h
  have := ui.rank_woken
  exact ⟨main', ui.woken, hf, hlimited, by omega, rfl⟩

/-- Once the answer has been recorded, the UI thread is about to wake the main thread, or has nothing to do for the
call. -/
lemma Host.answered_cases {ui : Host} (h : ui.answered = true) : ui = .callWake ∨ ∃ p, ui = .rest .answered p := by
  cases ui with
  | rest s p =>
    cases s with
    | answered => exact .inr ⟨p, rfl⟩
    | _ => cases h
  | callWake => exact .inl rfl
  | _ => cases h

/-- Before the answer, the handoff of the call is empty. -/
lemma Fits.handoff {main : Caller} {ui : Host} (hf : Fits main ui) (hclosed : main.closed = false)
    (ha : ui.answered = false) : ui.handoff index main.took = {} := by
  cases ui with
  | rest s p =>
    cases s with
    | answered => cases ha
    | released => exact absurd hf.2.1 (by simp [hclosed])
    | _ => rfl
  | callWake => cases ha
  | releaseWake => exact absurd hf.2.2 (by simp [hclosed])
  | _ => rfl

/-- A look of the main thread at the handoff. -/
lemma await_step {deadline : Option Nat} {ui : Host} (hf : Fits (.await deadline false) ui)
    (h : (shot inv index slot m (.await deadline false) ui).exec 0 = some m') :
    ∃ main', Fits main' ui ∧ ((Caller.await deadline false).Limited inv → main'.Limited inv) ∧
      main'.rank < (Caller.await deadline false).rank ∧ shot inv index slot m' main' ui = m' := by
  cases ha : ui.answered with
  | true =>
    have hf' : Fits (.deactivate true) ui :=
      hf.move rfl id (fun h => by simp [ha] at h) id id (fun _ => rfl)
        fun s hs => ⟨nofun, fun hu => absurd hu (hf.awake rfl nofun hs)⟩
    rcases Host.answered_cases ha with rfl | ⟨p, rfl⟩
    · obtain rfl := Option.some.inj h
      exact ⟨.deactivate true, hf', fun _ => nofun, of_decide_eq_true rfl, rfl⟩
    · obtain rfl := Option.some.inj h
      exact ⟨.deactivate true, hf', fun _ => nofun, of_decide_eq_true rfl, rfl⟩
  | false =>
    have hlook : (shot inv index slot m (.await deadline false) ui).exec 0 =
        some ((shot inv index slot m (.await deadline false) ui).await 0 0 deadline
          (call inv index (.await deadline false) ui) Closing.close.code) := rfl
    have hcheck : Handoff.wait.check deadline (shot inv index slot m (.await deadline false) ui).clock
        (call inv index (.await deadline false) ui).handoff =
          Handoff.wait.check deadline m.clock (ui.handoff index false) := rfl
    have hempty : ui.handoff index false = {} := hf.handoff rfl ha
    have hsleeps : Fits (.await deadline true) ui :=
      hf.move rfl id (fun _ _ => rfl) id id (fun h => by simp [ha] at h)
        fun s hs => ⟨nofun, fun hu => absurd hu (hf.awake rfl nofun hs)⟩
    rw [hlook, Machine.await, hcheck, hempty] at h
    cases deadline with
    | none =>
      obtain rfl := Option.some.inj h
      exact ⟨.await none true, hsleeps, id, by decide, rfl⟩
    | some deadline =>
      rcases Nat.lt_or_ge m.clock deadline with hd | hd
      · have hsleep : Handoff.wait.check (some deadline) m.clock ({} : Handoff Nat) =
            .sleep (some (deadline - m.clock)) := if_neg (Nat.not_le.2 hd)
        rw [hsleep] at h
        obtain rfl := Option.some.inj h
        exact ⟨.await (some deadline) true, hsleeps, id, of_decide_eq_true rfl, rfl⟩
      · have hlate : Handoff.wait.check (some deadline) m.clock ({} : Handoff Nat) = .timedOut := if_pos hd
        rw [hlate] at h
        obtain rfl := Option.some.inj h
        refine ⟨.deactivate false, ?_, fun hl _ => hl rfl, of_decide_eq_true rfl, rfl⟩
        exact hf.move rfl id (fun _ _ => rfl) id id (fun _ => rfl)
          fun s hs => ⟨nofun, fun hu => absurd hu (hf.awake rfl nofun hs)⟩

/-- What the main thread does next. It may wake the UI thread up. -/
lemma caller_step {main : Caller} {ui : Host} (hf : Fits main ui)
    (h : (shot inv index slot m main ui).exec 0 = some m') :
    ∃ main' ui', Fits main' ui' ∧ (main.Limited inv → main'.Limited inv) ∧
      main'.rank + ui'.rank < main.rank + ui.rank ∧ shot inv index slot m' main' ui' = m' := by
  have hposted : main.posted = true → main ≠ .scheduleWake → ∀ s, ui = .rest s (.pump true) → s ≠ .unasked :=
    fun hp hne _ hs => hf.awake hp hne hs
  cases main with
  | ask =>
    obtain ⟨p, rfl⟩ := hf.of_unposted rfl rfl
    obtain rfl := Option.some.inj h
    exact ⟨.activate, _, hf.move rfl nofun (fun _ => id) nofun nofun (fun _ => rfl) fun _ _ => ⟨nofun, nofun⟩,
      id, Nat.add_lt_add_right (by decide) _, rfl⟩
  | activate =>
    obtain rfl := Option.some.inj h
    exact ⟨.schedule, ui, hf.move rfl nofun (fun _ => id) nofun nofun (fun _ => rfl) fun _ _ => ⟨nofun, nofun⟩,
      id, Nat.add_lt_add_right (by decide) _, rfl⟩
  | schedule =>
    obtain ⟨p, rfl⟩ := hf.of_unposted rfl rfl
    obtain rfl := Option.some.inj h
    exact ⟨.scheduleWake, _,
      hf.move rfl nofun (fun _ => id) nofun nofun (fun _ => rfl) fun _ _ => ⟨nofun, fun _ _ => rfl⟩,
      id, Nat.add_lt_add_right (by decide) _, rfl⟩
  | scheduleWake =>
    have hf' : Fits .beginWait ui.woken :=
      hf.woken.move rfl id (fun _ => id) id id (fun _ => rfl) fun _ hs => absurd hs Host.woken_ne
    exact caller_wakes .beginWait hf' id rfl rfl rfl h
  | beginWait =>
    obtain rfl := Option.some.inj h
    refine ⟨.await (inv.options.waitLimit.map (m.clock + ·)) false, ui, ?_, ?_,
      Nat.add_lt_add_right (of_decide_eq_true rfl) _, rfl⟩
    · exact hf.move rfl id (fun _ => id) id id (fun _ => rfl)
        fun s hs => ⟨nofun, fun hu => absurd hu (hposted rfl nofun s hs)⟩
    · intro _ hl
      simpa using hl
  | await deadline asleep =>
    cases asleep with
    | true => cases h
    | false =>
      obtain ⟨main', hf', hlimited, hrank, hm'⟩ := await_step hf h
      exact ⟨main', ui, hf', hlimited, Nat.add_lt_add_right hrank _, hm'⟩
  | deactivate took =>
    obtain rfl := Option.some.inj h
    exact ⟨.resolve took, ui,
      hf.move rfl id (fun _ => id) id id (fun _ => rfl)
        fun s hs => ⟨nofun, fun hu => absurd hu (hposted rfl nofun s hs)⟩,
      id, Nat.add_lt_add_right (of_decide_eq_true rfl) _, rfl⟩
  | resolve took =>
    obtain rfl := Option.some.inj h
    exact ⟨.closing took .close, ui,
      hf.move rfl id (fun _ => id) id id (fun _ => rfl)
        fun s hs => ⟨nofun, fun hu => absurd hu (hposted rfl nofun s hs)⟩,
      id, Nat.add_lt_add_right (of_decide_eq_true rfl) _, rfl⟩
  | closing took p =>
    cases p with
    | close =>
      obtain rfl := Option.some.inj h
      exact ⟨.closing took .closeWake, ui,
        hf.move rfl id (fun _ => id) (fun _ => rfl) id (fun _ => rfl)
          fun s hs => ⟨nofun, fun hu => absurd hu (hposted rfl nofun s hs)⟩,
        id, Nat.add_lt_add_right (of_decide_eq_true rfl) _, rfl⟩
    | closeWake =>
      have hf' : Fits (.closing took .signal) ui.woken :=
        hf.woken.move rfl id (fun _ => id) id id (fun _ => rfl) fun _ hs => absurd hs Host.woken_ne
      exact caller_wakes (.closing took .signal) hf' id rfl rfl rfl h
    | signal =>
      obtain rfl := Option.some.inj h
      exact ⟨.closing took .signalWake, ui,
        hf.move rfl id (fun _ => id) id (fun _ => rfl) (fun _ => rfl)
          fun s hs => ⟨fun _ => ⟨took, rfl⟩, fun hu => absurd hu (hposted rfl nofun s hs)⟩,
        id, Nat.add_lt_add_right (of_decide_eq_true rfl) _, rfl⟩
    | signalWake =>
      have hf' : Fits (.closing took .join) ui.woken :=
        hf.woken.move rfl id (fun _ => id) id id (fun _ => rfl) fun _ hs => absurd hs Host.woken_ne
      exact caller_wakes (.closing took .join) hf' id rfl rfl rfl h
    | join =>
      cases ui with
      | rest s p =>
        cases p with
        | done =>
          obtain rfl := Option.some.inj h
          refine ⟨.closing took .done, .rest s .done, ⟨⟨fun _ => rfl, fun _ => rfl, nofun⟩, ?_⟩, id,
            Nat.add_lt_add_right (of_decide_eq_true rfl) _, ?_⟩
          · cases s with
            | unasked => exact ⟨hf.2.1, nofun⟩
            | _ => exact hf.2
          · cases s <;> rfl
        | _ => cases h
      | _ => cases h
    | done => cases h

/-! ### The run -/

/-- The UI thread stops only to sleep or for good. -/
lemma host_stuck {main : Caller} {ui : Host} (h : (shot inv index slot m main ui).exec 1 = none) :
    ∃ s, ui = .rest s (.pump true) ∨ ui = .rest s .done := by
  cases ui with
  | rest s p =>
    cases p with
    | pump asleep =>
      cases asleep with
      | false => cases h
      | true => exact ⟨s, .inl rfl⟩
    | done => exact ⟨s, .inr rfl⟩
    | _ => cases h
  | _ => cases h

/-- When neither thread can go on, both have ended. -/
lemma shot_stuck {main : Caller} {ui : Host} (hf : Fits main ui) (h : (shot inv index slot m main ui).Stuck) :
    ∃ took s, main = .closing took .done ∧ ui = .rest s .done := by
  have hmain := h 0
  obtain ⟨s, rfl | rfl⟩ := host_stuck (h 1)
  · have hasleep := hf.1.asleep rfl
    cases main with
    | await deadline asleep =>
      cases asleep with
      | false => cases hmain
      | true =>
        cases s with
        | unasked => cases hf.2.2 rfl rfl
        | scheduled => exact absurd rfl hf.2.2.2
        | answered => cases hf.2.2
        | released => cases hf.2.1
    | closing took p =>
      cases p with
      | join =>
        obtain ⟨took', he⟩ := hasleep rfl
        cases he
      | done => cases hf.1.running rfl
      | _ => cases hmain
    | _ => cases hmain
  · have hstopped := hf.1.stopped rfl
    cases main with
    | closing took p =>
      cases p with
      | done => exact ⟨took, s, rfl, rfl⟩
      | signalWake => cases hmain
      | join => cases hmain
      | _ => cases hstopped
    | _ => cases hstopped

/-- The outcome of the call is the one that the main thread has resolved it with. -/
lemma shot_outcome? (main : Caller) (ui : Host) :
    outcome? (shot inv index slot m main ui) = main.result inv index := by
  cases main <;> rfl

/-- The threads fit together as before when the main thread is woken up. -/
lemma Fits.roused {main : Caller} {ui : Host} (hf : Fits main ui) : Fits main.woken ui := by
  cases main with
  | await deadline asleep =>
    refine hf.move rfl id (fun _ => id) id id (fun _ => rfl) fun s hs => ⟨nofun, fun hu => ?_⟩
    exact absurd hu (hf.awake rfl nofun hs)
  | _ => exact hf

/-- Rousing a thread wakes the one or the other up, or does nothing. -/
lemma shot_rouse (main : Caller) (ui : Host) (t : ThreadId) :
    (shot inv index slot m main ui).rouse t = shot inv index slot m main ui ∨
      (shot inv index slot m main ui).rouse t = shot inv index slot m main.woken ui ∨
      (shot inv index slot m main ui).rouse t = shot inv index slot m main ui.woken := by
  match t with
  | 0 =>
    right; left
    cases main <;> rfl
  | 1 =>
    right; right
    cases ui with
    | rest s p => cases p <;> cases s <;> rfl
    | _ => rfl
  | t + 2 => exact .inl (rouse_beyond (Nat.le_add_left ..))

/-- A run on a worker ends with the requested button, or in time with no answer if its wait has a limit. -/
lemma reliable (hworker : inv.worker = true) (hslot : Chosen inv index Host.reaction slot) :
    Reliable inv index (Ranked inv index slot) where
  descent := by
    rintro k m t m' ⟨main, ui, hf, hl, rfl, hm⟩ h
    rw [← hm] at h
    match t with
    | 0 =>
      obtain ⟨main', ui', hf', hl', hrank, hm'⟩ := caller_step hf h
      exact ⟨_, hrank, main', ui', hf', hl' hl, rfl, hm'⟩
    | 1 =>
      obtain ⟨main', ui', hf', hl', hrank, hm'⟩ := host_step hslot hf h
      exact ⟨_, hrank, main', ui', hf', hl' hl, rfl, hm'⟩
    | t + 2 => cases h
  rouse := by
    rintro k m t ⟨main, ui, hf, hl, rfl, hm⟩
    rw [← hm]
    rcases shot_rouse main ui t with h | h | h
    · exact ⟨_, main, ui, hf, hl, rfl, by rw [h]; rfl⟩
    · exact ⟨_, main.woken, ui, hf.roused, hl.woken, rfl, by rw [h]; rfl⟩
    · exact ⟨_, main, ui.woken, hf.woken, hl, rfl, by rw [h]; rfl⟩
  pass := by
    rintro k m ms ⟨main, ui, hf, hl, rfl, hm⟩
    exact ⟨main, ui, hf, hl, rfl, congrArg (fun m : Machine => { m with clock := m.clock + ms }) hm⟩
  bound := by
    rintro k m ⟨main, ui, -, -, rfl, -⟩
    exact Nat.lt_of_le_of_lt (Nat.add_le_add main.rank_le ui.rank_le) (by decide)
  pending := by
    rintro k m ⟨main, ui, -, -, -, hm⟩
    rw [← hm]
    rfl
  expects := by
    rintro k m o ⟨main, ui, -, hl, -, hm⟩ ho
    rw [← hm, shot_outcome?] at ho
    cases main with
    | closing took p =>
      obtain rfl := Option.some.inj ho
      cases took with
      | true => exact .inl rfl
      | false => exact .inr ⟨rfl, hworker, hl rfl⟩
    | _ => cases ho
  stops := by
    rintro k m ⟨main, ui, hf, -, -, hm⟩ h
    rw [← hm] at h ⊢
    obtain ⟨took, s, rfl, rfl⟩ := shot_stuck hf h
    exact ⟨rfl, rfl, rfl⟩

/-- On a worker, the program of a headless run is the code that the main thread begins with. -/
lemma load_program (hworker : inv.worker = true) : load inv.headlessProgram = Caller.ask.code inv index := by
  rw [headlessProgram, hworker]
  rfl

/-- A machine whose UI thread has claimed the loop is in a state of the run. -/
lemma ranked_launched (hworker : inv.worker = true) : ∃ k, Ranked inv index slot k (inv.launched index) := by
  refine ⟨_, .ask, .rest .unasked .entry, ⟨⟨nofun, nofun, nofun⟩, rfl, nofun⟩, trivial, rfl, ?_⟩
  rw [launched, opening, load_program hworker]
  rfl

/-- A machine whose UI thread waits for tasks is in a state of the run. -/
lemma ranked_waiting (hworker : inv.worker = true) : ∃ k, Ranked inv index slot k (inv.waiting index) := by
  refine ⟨_, .ask, .rest .unasked (.pump true), ⟨⟨nofun, nofun, nofun⟩, rfl, nofun⟩, trivial, rfl, ?_⟩
  rw [← opening_waiting, opening, load_program hworker]
  rfl

end MessageBox.Invocation.OnWorker
