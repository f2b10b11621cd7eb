import Mathlib.Algebra.Group.Pi.Basic
import Mathlib.Data.List.Basic
import Mathlib.Tactic.Cases
import Mathlib.Tactic.Lemma
import MessageBox.Sync.Monitor

/-!
# Moves of a monitor

`Steps` says all that one move can do to a monitor, and `steps` that every move does one of these things. Two kinds
of things are counted: what the calls that have returned got is read off the waiters (`returned`), and what the
updates were worth, each where it was made, is summed along the moves (`charges`). A balance of the two that every
move keeps is kept by a whole interleaving (`run_balance`).
-/

namespace MessageBox

variable {σ υ δ β : Type}

/-- What a look decides, by what it sees. -/
inductive Wait.Decides (w : Wait σ) (deadline : Option Nat) (now : Nat) (s : σ) : Look → Prop where
  | interrupted :
    w.interrupted s = true →
    Decides w deadline now s .interrupted
  | ready :
    w.interrupted s = false →
    w.ready s = true →
    Decides w deadline now s .ready
  | timedOut {d} :
    w.interrupted s = false →
    w.ready s = false →
    deadline = some d →
    d ≤ now →
    Decides w deadline now s .timedOut
  | sleep :
    w.interrupted s = false →
    w.ready s = false →
    (∀ d, deadline = some d → now < d) →
    Decides w deadline now s (.sleep (deadline.map (· - now)))

/-- A look decides as `Wait.Decides` says, by what it sees. -/
lemma Wait.check_decides (w : Wait σ) (deadline : Option Nat) (now : Nat) (s : σ) :
    w.Decides deadline now s (w.check deadline now s) := by
  unfold Wait.check
  split
  case isTrue hi => exact .interrupted hi
  case isFalse hi =>
    have hi := eq_false_of_ne_true hi
    split
    case isTrue hr => exact .ready hi hr
    case isFalse hr =>
      have hr := eq_false_of_ne_true hr
      cases deadline with
      | none => exact .sleep hi hr (by simp)
      | some d =>
        dsimp only
        split
        case isTrue hd => exact .timedOut hi hr rfl hd
        case isFalse hd => exact .sleep hi hr (by simpa using hd)

/-- A waiter whose call has returned. -/
def Waiter.finish (w : Waiter δ β) (result : Except WaitFailure β) : Waiter δ β :=
  { w with phase := .finished result }

/-- What a call that has returned counts for, by its demand and its result. -/
def Waiter.worth (g : δ → Except WaitFailure β → Nat) (w : Waiter δ β) : Nat :=
  match w.phase with
  | .finished result => g w.demand result
  | _ => 0

namespace Waiter

variable {g : δ → Except WaitFailure β → Nat} {w : Waiter δ β} {result : Except WaitFailure β}

/-- A call that returns counts for what its demand and its result are worth. -/
@[simp]
lemma worth_finish : (w.finish result).worth g = g w.demand result := rfl

/-- Rousing a waiter changes nothing about what it counts for. -/
@[simp]
lemma worth_rouse : w.rouse.worth g = w.worth g := by
  unfold rouse
  split
  case h_1 hp => simp [worth, hp]
  case h_2 => rfl

/-- A waiter that is about to look counts for nothing yet. -/
lemma worth_checking (hp : w.phase = .checking) : w.worth g = 0 := by
  simp [worth, hp]

/-- Only a sleeper is changed by a wake-up. -/
lemma rouse_finished (hp : w.rouse.phase = .finished result) : w.phase = .finished result := by
  unfold rouse at hp
  split at hp
  · cases hp
  · exact hp

end Waiter

namespace Monitor

variable {r : Resource σ υ δ β} {m m' : Monitor σ δ β} {mv : Move υ δ}

/-- How a look ends a call: its result and the state it leaves. -/
inductive Ends (r : Resource σ υ δ β) (now : Nat) (s : σ) (w : Waiter δ β) : Except WaitFailure β → σ → Prop where
  | interrupted :
    (r.wait w.demand).interrupted s = true →
    Ends r now s w (.error .interrupted) ((r.wait w.demand).clear s)
  | ready {b s'} :
    (r.wait w.demand).interrupted s = false →
    (r.wait w.demand).ready s = true →
    r.take w.demand s = (b, s') →
    Ends r now s w (.ok b) s'
  | timedOut {d} :
    (r.wait w.demand).interrupted s = false →
    (r.wait w.demand).ready s = false →
    w.deadline = some d →
    d ≤ now →
    Ends r now s w (.error .timedOut) s

/-- All that a move can do to a monitor. -/
inductive Steps (r : Resource σ υ δ β) (m : Monitor σ δ β) : Move υ δ → Monitor σ δ β → Prop where
  | enter {demand timeout} :
    Steps r m (.enter demand timeout)
      { m with waiters := m.waiters ++ [⟨demand, timeout.map (m.clock + ·), .checking⟩] }
  | update {u granted s} :
    r.update u m.state = (granted, s) →
    Steps r m (.update u)
      { m with state := s,
               unannounced := if granted && r.announces u then m.unannounced + 1 else m.unannounced }
  | announce :
    m.unannounced ≠ 0 →
    Steps r m .announce
      { m with waiters := m.waiters.map Waiter.rouse, unannounced := m.unannounced - 1 }
  | look {i w result s} :
    m.waiters[i]? = some w →
    w.phase = .checking →
    Ends r m.clock m.state w result s →
    Steps r m (.look i) { m with waiters := m.waiters.set i (w.finish result), state := s }
  | sleep {i w} :
    m.waiters[i]? = some w →
    w.phase = .checking →
    (r.wait w.demand).interrupted m.state = false →
    (r.wait w.demand).ready m.state = false →
    (∀ d, w.deadline = some d → m.clock < d) →
    Steps r m (.look i) { m with waiters := m.waiters.set i { w with phase := .asleep } }
  | rouse {i} :
    Steps r m (.rouse i) { m with waiters := m.waiters.modify i Waiter.rouse }
  | pass {ms} :
    Steps r m (.pass ms) { m with clock := m.clock + ms }
  /-- Nobody has anything to announce. -/
  | silent :
    m.unannounced = 0 →
    Steps r m .announce m
  /-- The thread that is to look is not there, asleep or done. -/
  | absent {i} :
    (∀ w, m.waiters[i]? = some w → w.phase ≠ .checking) →
    Steps r m (.look i) m

/-- Setting an entry of a list to what it is changes nothing. -/
lemma set_getElem?_self {α : Type} {l : List α} {i : Nat} {a : α} (h : l[i]? = some a) : l.set i a = l := by
  obtain ⟨hi, rfl⟩ := List.getElem?_eq_some_iff.1 h
  exact List.set_getElem_self hi

/-- Every move is one of the steps. -/
theorem steps (r : Resource σ υ δ β) (m : Monitor σ δ β) (mv : Move υ δ) : Steps r m mv (m.step r mv) := by
  cases mv with
  | enter demand timeout => exact .enter
  | update u => exact .update rfl
  | announce =>
    simp only [step]
    split
    case isTrue h0 => exact .silent h0
    case isFalse h0 => exact .announce h0
  | look i =>
    simp only [step]
    cases hw : m.waiters[i]? with
    | none => exact .absent (by simp [hw])
    | some w =>
      dsimp only
      cases hp : w.phase with
      | checking =>
        have hd := (r.wait w.demand).check_decides w.deadline m.clock m.state
        simp only [look, hp]
        generalize (r.wait w.demand).check w.deadline m.clock m.state = l at hd
        cases hd with
        | interrupted hi => exact .look hw hp (.interrupted hi)
        | ready hi hr => exact .look hw hp (.ready hi hr rfl)
        | timedOut hi hr hd hn => exact .look hw hp (.timedOut hi hr hd hn)
        | sleep hi hr hd => exact .sleep hw hp hi hr hd
      | asleep | finished =>
        -- a look by one who does not look puts it back as it is
        simp only [look, hp, set_getElem?_self hw]
        exact .absent (by simp [hw, hp])
  | rouse i => exact .rouse
  | pass ms => exact .pass

/-- A run begins with its first move. -/
@[simp]
lemma run_cons {later : List (Move υ δ)} : m.run r (mv :: later) = (m.step r mv).run r later := rfl

/-- A run goes on from where its first part leads. -/
lemma run_append {moves more : List (Move υ δ)} : m.run r (moves ++ more) = (m.run r moves).run r more :=
  List.foldl_append ..

/-! ### Returned calls -/

/-- A call returns when a waiter that was still in it has its result. -/
def Returns (m m' : Monitor σ δ β) (i : Nat) (w : Waiter δ β) (result : Except WaitFailure β) : Prop :=
  m.waiters[i]? = some w ∧ (∀ result, w.phase ≠ .finished result) ∧ m'.waiters[i]? = some (w.finish result)

/-- What the calls that have returned count for. -/
def returned (g : δ → Except WaitFailure β → Nat) (m : Monitor σ δ β) : Nat :=
  (m.waiters.map (Waiter.worth g)).foldr (· + ·) 0

/-- What a move does to the state and to the calls that have returned. -/
inductive Deals (r : Resource σ υ δ β) (m m' : Monitor σ δ β) : Move υ δ → Prop where
  | update {u} :
    m'.waiters = m.waiters →
    m'.state = (r.update u m.state).2 →
    Deals r m m' (.update u)
  | look {i w result} :
    m.waiters[i]? = some w →
    w.phase = .checking →
    m'.waiters = m.waiters.set i (w.finish result) →
    Ends r m.clock m.state w result m'.state →
    Deals r m m' (.look i)
  /-- No call returns, and the state is as it was. -/
  | quiet {mv : Move υ δ} :
    (∀ u, mv ≠ .update u) →
    m'.state = m.state →
    (∀ f, returned f m' = returned f m) →
    (∀ i w result, ¬ Returns m m' i w result) →
    Deals r m m' mv

variable {g : δ → Except WaitFailure β → Nat} {i j : Nat} {w w' : Waiter δ β}
variable {result result' : Except WaitFailure β}

/-- Replacing an entry of a list changes a sum over the list by the difference. -/
lemma foldr_map_set {α : Type} {f : α → Nat} {l : List α} {i : Nat} {a b : α} (h : l[i]? = some a) :
    ((l.set i b).map f).foldr (· + ·) 0 + f a = (l.map f).foldr (· + ·) 0 + f b := by
  induction l generalizing i with
  | nil => simp at h
  | cons c l ih =>
    cases i with
    | zero =>
      obtain rfl : c = a := by simpa using h
      simp only [List.set_cons_zero, List.map_cons, List.foldr_cons]
      omega
    | succ i =>
      have := ih (by simpa using h)
      simp only [List.set_cons_succ, List.map_cons, List.foldr_cons]
      omega

/-- One that looks and returns adds what its call counts for. -/
lemma returned_set (hw : m.waiters[i]? = some w) (hp : w.phase = .checking)
    (hm : m'.waiters = m.waiters.set i w') : returned g m' = returned g m + w'.worth g := by
  have := foldr_map_set (f := Waiter.worth g) (b := w') hw
  rw [Waiter.worth_checking hp] at this
  rw [returned, hm]
  exact this

/-- A call returns if its waiter, which was about to look, is replaced by one that has a result. -/
lemma Returns.of_set (hw : m.waiters[i]? = some w) (hp : w.phase = .checking)
    (hm : m'.waiters = m.waiters.set i (w.finish result)) : Returns m m' i w result := by
  refine ⟨hw, by simp [hp], ?_⟩
  rw [hm, List.getElem?_set_self (List.getElem?_eq_some_iff.1 hw).1]

/-- The call that returns in a look is the one of the thread that looks. -/
lemma Returns.eq_of_set (h : Returns m m' j w' result') (hw : m.waiters[i]? = some w)
    (hm : m'.waiters = m.waiters.set i (w.finish result)) : j = i ∧ w' = w ∧ result' = result := by
  obtain ⟨hj, hp, hj'⟩ := h
  rw [hm] at hj'
  by_cases hij : i = j
  · subst hij
    obtain rfl : w = w' := by simpa [hw] using hj
    have hi := (List.getElem?_eq_some_iff.1 hw).1
    rw [List.getElem?_set_self hi] at hj'
    exact ⟨rfl, rfl, by simpa [Waiter.finish] using hj'.symm⟩
  · -- another waiter is as it was, and so it is not in its call any more
    rw [List.getElem?_set_ne hij, hj] at hj'
    exact absurd (congrArg Waiter.phase (Option.some.inj hj')) (hp _)

/-- No call returns if nobody has a result who had none. -/
lemma not_returns (h : ∀ (i : Nat) (w : Waiter δ β) (result : Except WaitFailure β), m.waiters[i]? = some w →
      m'.waiters[i]? = some (w.finish result) → w.phase = .finished result)
    (i : Nat) (w : Waiter δ β) (result : Except WaitFailure β) : ¬ Returns m m' i w result := by
  rintro ⟨hw, hp, hw'⟩
  exact hp _ (h i w result hw hw')

/-- No call returns if the waiters stay as they are. -/
lemma not_returns_of_waiters (hm : m'.waiters = m.waiters) (i : Nat) (w : Waiter δ β)
    (result : Except WaitFailure β) : ¬ Returns m m' i w result := by
  apply not_returns
  intro i w result hw hw'
  rw [hm, hw] at hw'
  exact congrArg Waiter.phase (Option.some.inj hw')

/-- All that a move can do to a monitor it does to the state and to the calls that have returned. -/
theorem Steps.deals (hs : Steps r m mv m') : Deals r m m' mv := by
  cases hs with
  | update hu => exact .update rfl (by rw [hu])
  | look hw hp he => exact .look hw hp rfl he
  | enter =>
    refine .quiet (by simp) rfl (fun g => by simp [returned, Waiter.worth]) (not_returns ?_)
    intro i w result hw hw'
    have hi := (List.getElem?_eq_some_iff.1 hw).1
    rw [List.getElem?_append_left hi, hw] at hw'
    exact congrArg Waiter.phase (Option.some.inj hw')
  | announce =>
    refine .quiet (by simp) rfl (fun g => by simp [returned, Function.comp_def]) (not_returns ?_)
    intro i w result hw hw'
    rw [List.getElem?_map, hw] at hw'
    exact Waiter.rouse_finished (congrArg Waiter.phase (Option.some.inj hw'))
  | @sleep j w hw hp =>
    refine .quiet (by simp) rfl (fun g => (returned_set hw hp rfl).trans (Nat.add_zero _)) (not_returns ?_)
    intro i v result hv hv'
    by_cases hij : j = i
    · subst hij
      rw [List.getElem?_set_self (List.getElem?_eq_some_iff.1 hw).1] at hv'
      cases congrArg Waiter.phase (Option.some.inj hv')
    · rw [List.getElem?_set_ne hij, hv] at hv'
      exact congrArg Waiter.phase (Option.some.inj hv')
  | @rouse j =>
    refine .quiet (by simp) rfl (fun g => ?_) (not_returns ?_)
    · have hmap : (m.waiters.modify j Waiter.rouse).map (Waiter.worth g) = m.waiters.map (Waiter.worth g) := by
        apply List.ext_getElem?
        intro k
        rw [List.getElem?_map, List.getElem?_map, List.getElem?_modify]
        split <;> simp [Function.comp_def]
      exact congrArg (List.foldr (· + ·) 0) hmap
    · intro i w result hw hw'
      rw [List.getElem?_modify, hw] at hw'
      have heq := congrArg Waiter.phase (Option.some.inj hw')
      split at heq
      · exact Waiter.rouse_finished heq
      · exact heq
  | pass => exact .quiet (by simp) rfl (fun _ => rfl) (not_returns_of_waiters rfl)
  | silent => exact .quiet (by simp) rfl (fun _ => rfl) (not_returns_of_waiters rfl)
  | absent => exact .quiet (by simp) rfl (fun _ => rfl) (not_returns_of_waiters rfl)

/-! ### Sums along an interleaving -/

/-- What a move counts for, if an update counts for what `f` says of the state it finds. -/
def charge (f : υ → σ → Nat) (m : Monitor σ δ β) : Move υ δ → Nat
  | .update u => f u m.state
  | _ => 0

/-- What the updates of an interleaving count for, each where it is made. -/
def charges (r : Resource σ υ δ β) (f : υ → σ → Nat) (m : Monitor σ δ β) : List (Move υ δ) → Nat
  | [] => 0
  | mv :: later => m.charge f mv + (m.step r mv).charges r f later

/-- An update counts for what is said of it in the state that it finds. -/
lemma charge_update {f : υ → σ → Nat} {u : υ} : m.charge f (.update u) = f u m.state := rfl

/-- A look counts for nothing. -/
lemma charge_look {f : υ → σ → Nat} {i : Nat} : m.charge f (.look i) = 0 := rfl

/-- Only updates count. -/
lemma charge_eq_zero {f : υ → σ → Nat} (h : ∀ u, mv ≠ .update u) : m.charge f mv = 0 := by
  cases mv with
  | update u => exact absurd rfl (h u)
  | _ => rfl

/-- A move counts for a sum by what it counts for each part. -/
lemma charge_add {f g : υ → σ → Nat} : m.charge (f + g) mv = m.charge f mv + m.charge g mv := by
  cases mv <;> rfl

/-- An interleaving counts for a sum by what it counts for each part. -/
lemma charges_add {f g : υ → σ → Nat} {moves : List (Move υ δ)} :
    m.charges r (f + g) moves = m.charges r f moves + m.charges r g moves := by
  induction moves generalizing m with
  | nil => rfl
  | cons mv later ih =>
    simp only [charges, charge_add, ih]
    omega

/-- An interleaving counts for nothing just if each of its updates does where it is made. -/
lemma charges_eq_zero_iff {f : υ → σ → Nat} {moves : List (Move υ δ)} :
    m.charges r f moves = 0 ↔
      ∀ before u, before ++ [.update u] <+: moves → f u (m.run r before).state = 0 := by
  induction moves generalizing m with
  | nil => simp [charges]
  | cons mv later ih =>
    rw [charges, Nat.add_eq_zero_iff, ih]
    constructor
    · rintro ⟨hmv, hlater⟩ before u hb
      cases before with
      | nil =>
        obtain rfl : Move.update u = mv := by simpa using hb
        exact hmv
      | cons mv' before =>
        obtain ⟨rfl, hbefore⟩ := List.cons_prefix_cons.1 hb
        exact hlater before u hbefore
    · intro h
      constructor
      · cases mv with
        | update u => exact h [] u (by simp)
        | _ => rfl
      · intro before u hb
        exact h (mv :: before) u (List.cons_prefix_cons.2 ⟨rfl, hb⟩)

/-- What every move balances is balanced by an interleaving. -/
theorem run_balance (held : Monitor σ δ β → Nat) {paid due : υ → σ → Nat}
    (h : ∀ (m : Monitor σ δ β) (mv : Move υ δ), held (m.step r mv) + m.charge paid mv = held m + m.charge due mv)
    (m : Monitor σ δ β) (moves : List (Move υ δ)) :
    held (m.run r moves) + m.charges r paid moves = held m + m.charges r due moves := by
  induction moves generalizing m with
  | nil => rfl
  | cons mv later ih =>
    have hmv := h m mv
    have hlater := ih (m.step r mv)
    simp only [run_cons, charges]
    omega

/-- What every move adds to, an interleaving adds to. -/
theorem run_gain (held : Monitor σ δ β → Nat) {due : υ → σ → Nat}
    (h : ∀ (m : Monitor σ δ β) (mv : Move υ δ), held (m.step r mv) = held m + m.charge due mv)
    (m : Monitor σ δ β) (moves : List (Move υ δ)) :
    held (m.run r moves) = held m + m.charges r due moves := by
  induction moves generalizing m with
  | nil => rfl
  | cons mv later ih => rw [run_cons, charges, ih, h, Nat.add_assoc]

end Monitor

end MessageBox
