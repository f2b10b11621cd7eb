import Mathlib.Tactic.Lemma
import MessageBox.Machine.Schedule

/-!
# Settling

A machine is stuck when no thread can go on. A descent is a ranked property of machines that every instruction
keeps while it lowers the rank (`Descent`), so a machine on a descent gets stuck after fewer instructions than its
rank, whichever thread goes first, and is on the descent then (`Descent.settle`).
-/

namespace MessageBox.Machine

variable {m m' : Machine} {t : ThreadId} {P : Nat → Machine → Prop} {k : Nat}

/-- No thread can go on. -/
def Stuck (m : Machine) : Prop := ∀ t, m.exec t = none

/-- A ranked property of machines: every instruction keeps it and lowers the rank. -/
def Descent (P : Nat → Machine → Prop) : Prop :=
  ∀ ⦃k m t m'⦄, P k m → m.exec t = some m' → ∃ k' < k, P k' m'

/-- A thread that does not exist cannot go on. -/
lemma exec_beyond (h : m.threads.length ≤ t) : m.exec t = none := by
  rw [exec, List.getElem?_eq_none h]

/-- A thread that does not exist cannot be roused. -/
lemma rouse_beyond (h : m.threads.length ≤ t) : m.rouse t = m := by
  rw [rouse, List.modify_eq_self h]

/-- Only a machine that is stuck has no next step. -/
lemma stuck_of_next? (h : m.next? t = none) : m.Stuck := by
  unfold next? at h
  split at h
  · cases h
  · intro u
    rcases Nat.lt_or_ge u m.threads.length with hu | hu
    · simpa using List.findSome?_eq_none_iff.1 h u (List.mem_range.2 hu)
    · exact exec_beyond hu

/-- The machine that comes next is the one after a move of the thread that was found. -/
lemma exec_of_next? {next : ThreadId × Machine} (h : m.next? t = some next) :
    m.exec next.1 = some next.2 := by
  unfold next? at h
  split at h
  · next m' hm' =>
    cases h
    exact hm'
  · obtain ⟨u, -, hu⟩ := List.exists_of_findSome?_eq_some h
    obtain ⟨m', hm', rfl⟩ := Option.map_eq_some_iff.1 hu
    exact hm'

/-- With more fuel than the rank, settling comes to a machine with the property on which no thread can go on: each
instruction lowers the rank. -/
lemma Descent.settleFrom (hP : Descent P) {fuel : Nat} (h : P k m) (hfuel : k < fuel) :
    (∃ k', P k' (m.settleFrom fuel t)) ∧ (m.settleFrom fuel t).Stuck := by
  induction fuel generalizing k m t with
  | zero => cases hfuel
  | succ fuel ih =>
    rw [Machine.settleFrom]
    cases hnext : m.next? t with
    | none => exact ⟨⟨k, h⟩, stuck_of_next? hnext⟩
    | some next =>
      obtain ⟨k', hk', h'⟩ := hP h (exec_of_next? hnext)
      exact ih h' (by omega)

/-- A machine on a descent settles on the descent. -/
lemma Descent.settle (hP : Descent P) (h : P k m) (hk : k < budget) :
    (∃ k', P k' (m.settle t)) ∧ (m.settle t).Stuck :=
  hP.settleFrom h hk

/-- Nobody waits for what holds already. -/
lemma waitUntil_of_stop {stop : Machine → Bool} {limit : Option Nat} (h : stop m = true) :
    m.waitUntil stop limit = m := by
  have hbudget : budget = 9999999 + 1 := rfl
  rw [waitUntil, hbudget, playUntil, if_pos h]

end MessageBox.Machine
