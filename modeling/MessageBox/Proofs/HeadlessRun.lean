import MessageBox.Proofs.Arguments
import MessageBox.Proofs.Headless.OnUiThread
import MessageBox.Proofs.Headless.OnWorker

/-!
# A headless run answers the requested button

An invocation with a button to press runs without a terminal: a UI thread of its own shows the dialog, and its
responder presses the button. Every interleaving of the two threads goes on until both have ended; the call is
resolved with the requested button by then, or, on a worker with a limit of the wait, with no answer in time
(`headless_press_answered`).
-/

namespace MessageBox.Invocation

open Machine

open CommandLine (Args)

variable {args : Args} {settings : Settings} {inv : Invocation} {index : Nat}

/-- What a run of these arguments may return: the `n`-th button, or, on a worker whose wait has a limit, no answer
in time. -/
def MayReturn (args : Args) (settings : Settings) (n : Nat) (o : Outcome) : Prop :=
  o.isAction = true ∧ o.code = n ∨
    o = .timedOut ∧ args.worker = true ∧ settings.waitTimeoutMs.isSome = true

/-- Both threads have ended, the call is resolved as it may be, and no dialog is left pending. -/
structure Answered (args : Args) (settings : Settings) (n : Nat) (m : Machine) : Prop where
  main : m.finished mainThread = true
  ui : m.finished 1 = true
  resolved : ∃ o, outcome? m = some o ∧ MayReturn args settings n o
  pending : m.desk.pending = []

/-- A headless run of a button that the dialog has can be relied on, wherever the prompt is shown. -/
lemma exists_reliable (hindex : index < inv.spec.actions.length) :
    ∃ P, Reliable inv index P ∧ (∃ k, P k (inv.launched index)) ∧ ∃ k, P k (inv.waiting index) := by
  cases hworker : inv.worker with
  | false =>
    obtain ⟨slot, hslot⟩ := exists_chosen OnUiThread.Host.reaction hindex
    exact ⟨_, OnUiThread.reliable hslot, OnUiThread.ranked_launched hworker,
      OnUiThread.ranked_waiting hworker⟩
  | true =>
    obtain ⟨slot, hslot⟩ := exists_chosen OnWorker.Host.reaction hindex
    exact ⟨_, OnWorker.reliable hworker hslot, OnWorker.ranked_launched hworker,
      OnWorker.ranked_waiting hworker⟩

/-- The requested button is the one of its number. -/
lemma Expects.mayReturn (hmake : make args settings = .ok inv) (hindex : index < inv.spec.actions.length)
    {o : Outcome} (h : Expects inv index o) : MayReturn args settings (index + 1) o := by
  obtain ⟨-, hoptions, hworker, -, -⟩ := of_make hmake
  rcases h with rfl | ⟨rfl, hw, hlimit⟩
  · obtain ⟨slot, hslot⟩ := Slot.layout_getElem? inv.spec.actions_le hindex
    exact .inl (Slot.outcome_of_layout (List.mem_of_getElem? hslot))
  · refine .inr ⟨rfl, hworker ▸ hw, ?_⟩
    rw [hoptions] at hlimit
    exact hlimit

/-- A headless run that is over is answered. -/
lemma Reliable.answered {P : Nat → Machine → Prop} {k : Nat} {m : Machine} (hP : Reliable inv index P)
    (hmake : make args settings = .ok inv) (hindex : index < inv.spec.actions.length) (h : P k m) (hover : Over m) :
    Answered args settings (index + 1) m := by
  obtain ⟨o, ho⟩ := Option.isSome_iff_exists.1 hover.resolved
  exact ⟨hover.main, hover.ui, ⟨o, ho, (hP.expects h ho).mayReturn hmake hindex⟩, hP.pending h⟩

/-- Arguments whose button, if they have one, is counted from one make an invocation exactly if they ask for one to
three labels and for a button of these. An invocation that is made with a button `n` presses the button of the
index `n - 1`, and its run ends with the call resolved. So does every other interleaving of the two threads, from
the moment the UI thread has claimed the loop: no dialog is ever left pending, the call is only resolved with the
action of the code `n`, or with no answer in time if it is shown on a worker and the wait has a limit, and
wherever the threads are, they get to their ends if they only go on. -/
theorem headless_press_answered (args : Args) (settings : Settings)
    (hpress : ∀ n, args.headlessPress = some n → 1 ≤ n) :
    ((∃ inv, make args settings = .ok inv) ↔
      1 ≤ args.labels.length ∧ args.labels.length ≤ maxActions ∧
        ∀ n, args.headlessPress = some n → n ≤ args.labels.length) ∧
    ∀ inv n, make args settings = .ok inv → args.headlessPress = some n →
      inv.spec.actions = args.labels ∧
      ∃ index, inv.headlessPress = some index ∧ index + 1 = n ∧
        Answered args settings n (inv.runHeadless index) ∧
        ∀ moves,
          ((inv.launched index).play moves).desk.pending = [] ∧
          (∀ o, outcome? ((inv.launched index).play moves) = some o → MayReturn args settings n o) ∧
          ∀ t, Answered args settings n (((inv.launched index).play moves).settle t) := by
  refine ⟨make_ok_iff args settings, fun inv n hmake hn => ?_⟩
  obtain ⟨hactions, -, -, hheadless, hle⟩ := of_make hmake
  obtain ⟨index, rfl⟩ : ∃ index, n = index + 1 := ⟨n - 1, (Nat.sub_add_cancel (hpress n hn)).symm⟩
  have hindex : index < inv.spec.actions.length := hactions ▸ hle _ hn
  obtain ⟨P, hP, ⟨k, hlaunched⟩, k', hwaiting⟩ := exists_reliable hindex
  refine ⟨hactions, index, by simp [hheadless, hn], rfl, ?_, fun moves => ?_⟩
  · obtain ⟨⟨k, h⟩, hover⟩ := hP.settle hwaiting mainThread
    have hrun : inv.runHeadless index = (inv.waiting index).settle mainThread :=
      waitUntil_of_stop hover.main
    rw [hrun]
    exact hP.answered hmake hindex h hover
  · obtain ⟨k, h⟩ := hP.play hlaunched moves
    refine ⟨hP.pending h, fun o ho => (hP.expects h ho).mayReturn hmake hindex, fun t => ?_⟩
    obtain ⟨⟨k, hsettled⟩, hover⟩ := hP.settle h t
    exact hP.answered hmake hindex hsettled hover

/-- The second of two buttons is answered with the code 2. On a worker that has no time at all, the call may also be
resolved with no answer in time, and even then the run gets to its end. -/
theorem headless_press_answered_secondButton :
    ∃ args inv hurried, CommandLine.parse
        ["Delete", "Really?", "-a", "Delete", "-a", "Cancel", "--headless-press", "2"] = .ok args ∧
      make args {} = .ok inv ∧ inv.headlessPress = some 1 ∧
      (∃ o, outcome? (inv.runHeadless 1) = some o ∧ o.code = 2) ∧
      make { args with worker := true } { waitTimeoutMs := some 0 } = .ok hurried ∧
      outcome? ((hurried.launched 1).play (List.replicate 8 (.exec 0))) = some .timedOut ∧
      (((hurried.launched 1).play (List.replicate 8 (.exec 0))).settle 1).finished mainThread = true := by
  have hparse : CommandLine.parse
      ["Delete", "Really?", "-a", "Delete", "-a", "Cancel", "--headless-press", "2"] =
        .ok { caption := "Delete", message := "Really?", actions := ["Delete", "Cancel"], headlessPress := some 2 } := by
    cbv
  have hpress := CommandLine.parse_headlessPress _ _ hparse
  refine ⟨_, _, _, hparse, rfl, rfl, ?_, rfl, rfl, ?_⟩
  · obtain ⟨-, hruns⟩ := headless_press_answered _ {} fun n hn => (hpress n hn).1
    obtain ⟨-, index, hindex, -, hanswered, -⟩ := hruns _ 2 rfl rfl
    cases hindex
    obtain ⟨o, ho, ⟨-, hcode⟩ | ⟨-, hworker, -⟩⟩ := hanswered.resolved
    · exact ⟨o, ho, hcode⟩
    · cases hworker
  · obtain ⟨-, hruns⟩ := headless_press_answered
      { caption := "Delete", message := "Really?", actions := ["Delete", "Cancel"], headlessPress := some 2,
        worker := true } { waitTimeoutMs := some 0 } fun n hn => (hpress n hn).1
    obtain ⟨-, index, hindex, -, -, hmoves⟩ := hruns _ 2 rfl rfl
    cases hindex
    exact ((hmoves _).2.2 1).main

end MessageBox.Invocation
