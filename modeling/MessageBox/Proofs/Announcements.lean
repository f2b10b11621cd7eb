import MessageBox.Proofs.Handoff
import MessageBox.Proofs.Semaphore

/-!
# Nobody sleeps who could go on

A waiter looks at the state before it sleeps, and whoever changes the state in its favour notifies all waiters
afterwards (`Resource.Announced`). So a waiter that could go on sleeps only while a notification is due (`Alert`,
`step_alert`). An interruption that is pending goes to the first call that looks, and until then no call returns
(`first_interrupted`); hence one that was asked for while somebody slept has gone to exactly one call when all
notifications are made and seen (`interruption_taken`). `no_idle_sleeper` says both of semaphores and handoffs.
-/

namespace MessageBox

variable {σ υ δ β : Type}

namespace Resource

/-- A waiter with a demand can go on: it has what it waits for, or it is interrupted. -/
def lets (r : Resource σ υ δ β) (demand : δ) (s : σ) : Bool :=
  (r.wait demand).interrupted s || (r.wait demand).ready s

/-- Nobody can go on in `s'` who could not in `s`. -/
def Tightens (r : Resource σ υ δ β) (s s' : σ) : Prop := ∀ demand, r.lets demand s' = true → r.lets demand s = true

/-- An update that nobody announces lets nobody go on, and neither does a waiter that leaves. -/
structure Announced (r : Resource σ υ δ β) : Prop where
  update : ∀ u s, ((r.update u s).1 && r.announces u) = false → r.Tightens s (r.update u s).2
  take : ∀ demand s, (r.wait demand).ready s = true → r.Tightens s (r.take demand s).2
  clear : ∀ demand s, r.Tightens s ((r.wait demand).clear s)

/-- One update leaves an interruption, whose `pending` all waiters see; only a waiter takes it. -/
structure Interruptible (r : Resource σ υ δ β) (pending : σ → Bool) (interrupt : υ) : Prop where
  seen : ∀ demand s, (r.wait demand).interrupted s = pending s
  raised : ∀ s, pending (r.update interrupt s).2 = true
  kept : ∀ u s, pending s = true → pending (r.update u s).2 = true
  other : ∀ u s, u ≠ interrupt → pending s = false → pending (r.update u s).2 = false
  take : ∀ demand s, pending (r.take demand s).2 = pending s
  clear : ∀ demand s, pending ((r.wait demand).clear s) = false

end Resource

namespace Waiter

variable {v v' v'' : Waiter δ β} {result : Except WaitFailure β}

/-- A waiter that was roused does not sleep. -/
lemma rouse_not_asleep : v.rouse.phase ≠ .asleep := by
  unfold rouse
  split
  · nofun
  case h_2 h => exact h

/-- The same call later on. -/
structure Continues (v v' : Waiter δ β) : Prop where
  demand : v'.demand = v.demand
  deadline : v'.deadline = v.deadline
  finished : ∀ {result}, v.phase = .finished result → v'.phase = .finished result

/-- Every call continues itself. -/
lemma Continues.refl : v.Continues v := ⟨rfl, rfl, id⟩

/-- A call that continues a later state of it continues an earlier one. -/
lemma Continues.trans (h : v.Continues v') (h' : v'.Continues v'') : v.Continues v'' :=
  ⟨h'.demand.trans h.demand, h'.deadline.trans h.deadline, fun hp => h'.finished (h.finished hp)⟩

/-- A call goes on when its waiter is roused. -/
lemma Continues.rouse : v.Continues v.rouse := by
  unfold Waiter.rouse
  split
  case h_1 hp => exact ⟨rfl, rfl, fun h => by rw [hp] at h; cases h⟩
  case h_2 => exact .refl

/-- A call whose waiter is about to look goes on into any phase. -/
lemma Continues.of_checking (hp : v.phase = .checking) (phase : Phase β) : v.Continues { v with phase } :=
  ⟨rfl, rfl, fun h => by rw [hp] at h; cases h⟩

/-- A call that has returned is the one it was, with its result. -/
lemma Continues.eq_finish (h : v.Continues v') (hp : v'.phase = .finished result) : v' = v.finish result := by
  cases v'
  cases v
  cases hp
  cases h.demand
  cases h.deadline
  rfl

/-- A waiter that sleeps before and after is unchanged. -/
lemma Continues.eq_asleep (h : v.Continues v') (hp : v.phase = .asleep) (hp' : v'.phase = .asleep) : v' = v := by
  cases v'
  cases v
  cases hp
  cases hp'
  cases h.demand
  cases h.deadline
  rfl

end Waiter

namespace Monitor

variable {r : Resource σ υ δ β} {m m' : Monitor σ δ β} {mv : Move υ δ} {moves : List (Move υ δ)}
variable {now i k : Nat} {s s' : σ} {v w : Waiter δ β} {result : Except WaitFailure β}
variable {pending : σ → Bool} {interrupt : υ}

/-! ### Sleepers -/

/-- Unless a notification is due, no sleeper could go on. -/
def Alert (r : Resource σ υ δ β) (m : Monitor σ δ β) : Prop :=
  m.unannounced = 0 → ∀ w ∈ m.waiters, w.phase = .asleep → r.lets w.demand m.state = false

/-- A waiter that leaves lets nobody go on. -/
lemma Ends.tightens (he : Ends r now s w result s') (ha : r.Announced) : r.Tightens s s' := by
  cases he with
  | interrupted => exact ha.clear w.demand s
  | ready _ hr ht =>
    have := ha.take w.demand s hr
    rwa [ht] at this
  | timedOut => exact fun _ => id

/-- Where nobody can go on who could not before, those who go on sleeping are as alert as before. -/
lemma Alert.tightens (h : m.Alert r) (ht : r.Tightens m.state m'.state) (hu : m'.unannounced = 0 → m.unannounced = 0)
    (hw : ∀ w ∈ m'.waiters, w.phase = .asleep → w ∈ m.waiters ∨ r.lets w.demand m.state = false) : m'.Alert r := by
  intro hdue w hmem hp
  have hold : r.lets w.demand m.state = false := by
    rcases hw w hmem hp with hold | hnew
    · exact h (hu hdue) w hold hp
    · exact hnew
  apply eq_false_of_ne_true
  intro hlets
  rw [ht w.demand hlets] at hold
  cases hold

/-- Every move keeps sleepers from what they could go on with, unless a notification is due. -/
theorem step_alert (ha : r.Announced) (h : m.Alert r) (mv : Move υ δ) : (m.step r mv).Alert r := by
  have hs := steps r m mv
  generalize m.step r mv = m' at hs ⊢
  cases hs with
  | enter =>
    refine h.tightens (fun _ => id) id ?_
    intro w hw hp
    rcases List.mem_append.1 hw with hw | hw
    · exact .inl hw
    · obtain rfl := List.mem_singleton.1 hw
      cases hp
  | @update u granted s hu =>
    intro hdue
    -- either a notification is due now, or the update lets nobody go on
    have hquiet : (granted && r.announces u) = false := by
      apply eq_false_of_ne_true
      intro hg
      simp only [hg, if_true] at hdue
      cases hdue
    have ht := ha.update u m.state
    rw [hu] at ht
    exact h.tightens (ht hquiet) (by simp [hquiet]) (fun _ hw _ => .inl hw) hdue
  | announce =>
    intro _ w hw hp
    obtain ⟨v, -, rfl⟩ := List.mem_map.1 hw
    exact absurd hp Waiter.rouse_not_asleep
  | @look i w result s hw hp he =>
    refine h.tightens (he.tightens ha) id ?_
    intro v hv hpv
    rcases List.mem_or_eq_of_mem_set hv with hv | rfl
    · exact .inl hv
    · cases hpv
  | @sleep i w hw hp hi hr =>
    refine h.tightens (fun _ => id) id ?_
    intro v hv _
    rcases List.mem_or_eq_of_mem_set hv with hv | rfl
    · exact .inl hv
    · refine .inr ?_
      show ((r.wait w.demand).interrupted m.state || (r.wait w.demand).ready m.state) = false
      rw [hi, hr]
      rfl
  | @rouse i =>
    refine h.tightens (fun _ => id) id ?_
    intro v hv hpv
    obtain ⟨k, hk⟩ := List.mem_iff_getElem?.1 hv
    rw [List.getElem?_modify] at hk
    obtain ⟨u, hu, rfl⟩ := Option.map_eq_some_iff.1 hk
    split at hpv
    · exact absurd hpv Waiter.rouse_not_asleep
    case isFalse hne =>
      rw [if_neg hne]
      exact .inl (List.mem_of_getElem? hu)
  | pass => exact h.tightens (fun _ => id) id fun _ hw _ => .inl hw
  | silent => exact h
  | absent => exact h

/-- A run keeps sleepers from what they could go on with, unless a notification is due. -/
lemma run_alert (ha : r.Announced) (h : m.Alert r) (moves : List (Move υ δ)) : (m.run r moves).Alert r := by
  induction moves generalizing m with
  | nil => exact h
  | cons mv later ih =>
    apply ih
    exact step_alert ha h mv

/-! ### A waiter along an interleaving -/

/-- Every move leaves a waiter in its place, and its call goes on. -/
lemma step_waiter (hv : m.waiters[k]? = some v) (mv : Move υ δ) :
    ∃ v', (m.step r mv).waiters[k]? = some v' ∧ v.Continues v' := by
  have hs := steps r m mv
  generalize m.step r mv = m' at hs ⊢
  -- only the waiter that looks is another one afterwards
  have looks : ∀ {i w} {phase : Phase β}, m.waiters[i]? = some w → w.phase = .checking →
      ∃ v', (m.waiters.set i { w with phase })[k]? = some v' ∧ v.Continues v' := by
    intro i w phase hw hp
    by_cases hik : i = k
    · subst hik
      obtain rfl : w = v := by simpa [hw] using hv
      exact ⟨_, List.getElem?_set_self (List.getElem?_eq_some_iff.1 hw).1, .of_checking hp phase⟩
    · exact ⟨v, (List.getElem?_set_ne hik).trans hv, .refl⟩
  cases hs with
  | enter => exact ⟨v, (List.getElem?_append_left (List.getElem?_eq_some_iff.1 hv).1).trans hv, .refl⟩
  | update => exact ⟨v, hv, .refl⟩
  | announce => exact ⟨v.rouse, by rw [List.getElem?_map, hv]; rfl, .rouse⟩
  | look hw hp => exact looks hw hp
  | sleep hw hp => exact looks hw hp
  | @rouse i =>
    rw [List.getElem?_modify, hv]
    refine ⟨_, rfl, ?_⟩
    split
    · exact .rouse
    · exact .refl
  | pass => exact ⟨v, hv, .refl⟩
  | silent => exact ⟨v, hv, .refl⟩
  | absent => exact ⟨v, hv, .refl⟩

/-- A run leaves a waiter in its place, and its call goes on. -/
lemma run_waiter (hv : m.waiters[k]? = some v) (moves : List (Move υ δ)) :
    ∃ v', (m.run r moves).waiters[k]? = some v' ∧ v.Continues v' := by
  induction moves generalizing m v with
  | nil => exact ⟨v, hv, .refl⟩
  | cons mv later ih =>
    obtain ⟨u, hu, hvu⟩ := step_waiter hv mv
    obtain ⟨v', hv', huv⟩ := ih hu
    exact ⟨v', hv', hvu.trans huv⟩

/-- A call that is over has returned at some move. -/
lemma returns_of_finished (hv : m.waiters[k]? = some v) (hp : ∀ result, v.phase ≠ .finished result)
    (hk : (m.run r moves).waiters[k]? = some w) (hw : w.phase = .finished result) :
    ∃ before mv u, before ++ [mv] <+: moves ∧
      Returns (m.run r before) ((m.run r before).step r mv) k u result := by
  induction moves generalizing m v with
  | nil =>
    obtain rfl : v = w := Option.some.inj (hv.symm.trans hk)
    exact absurd hw (hp result)
  | cons mv later ih =>
    obtain ⟨u, hu, hvu⟩ := step_waiter (r := r) hv mv
    by_cases hend : ∃ result', u.phase = .finished result'
    · obtain ⟨result', hend⟩ := hend
      obtain ⟨w', hw', huw⟩ := run_waiter (r := r) hu later
      obtain rfl : w' = w := Option.some.inj (hw'.symm.trans hk)
      cases (huw.finished hend).symm.trans hw
      refine ⟨[], mv, v, List.cons_prefix_cons.2 ⟨rfl, List.nil_prefix⟩, hv, hp, ?_⟩
      rw [← hvu.eq_finish hend]
      exact hu
    · obtain ⟨before, mv', u', hb, hret⟩ := ih hu (fun result' h => hend ⟨result', h⟩) hk
      exact ⟨mv :: before, mv', u', List.cons_prefix_cons.2 ⟨rfl, hb⟩, hret⟩

/-- How a call that returns ends. -/
lemma Returns.ends (h : Returns m (m.step r mv) k w result) :
    Ends r m.clock m.state w result (m.step r mv).state := by
  cases (steps r m mv).deals with
  | update hw => exact absurd h (not_returns_of_waiters hw _ _ _)
  | look hw _ hm he =>
    obtain ⟨-, rfl, rfl⟩ := h.eq_of_set hw hm
    exact he
  | quiet _ _ _ hno => exact absurd h (hno _ _ _)

/-- A call that returns by a look is that of the waiter who looks. -/
lemma Returns.of_look (h : Returns m (m.step r (.look i)) k w result) : k = i := by
  cases (steps r m (.look i)).deals with
  | look hw _ hm => exact (h.eq_of_set hw hm).1
  | quiet _ _ _ hno => exact absurd h (hno _ _ _)

/-- A call that runs out of time has a deadline, which has come. -/
lemma Ends.deadline (he : Ends r now s w (.error .timedOut) s') : ∃ d, w.deadline = some d ∧ d ≤ now := by
  cases he with
  | timedOut _ _ hd hnow => exact ⟨_, hd, hnow⟩

/-- The clock of a run never goes back. -/
lemma run_clock (m : Monitor σ δ β) (moves : List (Move υ δ)) : m.clock ≤ (m.run r moves).clock := by
  induction moves generalizing m with
  | nil => exact Nat.le_refl _
  | cons mv later ih =>
    apply Nat.le_trans _ (ih (m.step r mv))
    have hs := steps r m mv
    generalize m.step r mv = m' at hs ⊢
    cases hs with
    | pass => exact Nat.le_add_right ..
    | _ => exact Nat.le_refl _

/-! ### Interruptions -/

/-- A place in a list is before, at or behind a given one. -/
lemma prefix_append_cons {α : Type} {l l' p : List α} {x y : α} (h : p ++ [y] <+: l ++ x :: l') :
    p ++ [y] <+: l ∨ (p = l ∧ y = x) ∨ ∃ q, p = l ++ x :: q ∧ q ++ [y] <+: l' := by
  induction l generalizing p with
  | nil =>
    cases p with
    | nil => exact .inr (.inl ⟨rfl, (List.cons_prefix_cons.1 h).1⟩)
    | cons z q =>
      obtain ⟨rfl, hq⟩ := List.cons_prefix_cons.1 h
      exact .inr (.inr ⟨q, rfl, hq⟩)
  | cons z l ih =>
    cases p with
    | nil =>
      obtain ⟨rfl, -⟩ := List.cons_prefix_cons.1 h
      exact .inl (List.cons_prefix_cons.2 ⟨rfl, List.nil_prefix⟩)
    | cons z' p =>
      obtain ⟨rfl, hp⟩ := List.cons_prefix_cons.1 h
      rcases ih hp with hl | ⟨rfl, rfl⟩ | ⟨q, rfl, hq⟩
      · exact .inl (List.cons_prefix_cons.2 ⟨rfl, hl⟩)
      · exact .inr (.inl ⟨rfl, rfl⟩)
      · exact .inr (.inr ⟨q, rfl, hq⟩)

/-- No call returns in the course of the moves. -/
def Undisturbed (r : Resource σ υ δ β) (m : Monitor σ δ β) (moves : List (Move υ δ)) : Prop :=
  ∀ before mv, before ++ [mv] <+: moves →
    ∀ k v result, ¬ Returns (m.run r before) ((m.run r before).step r mv) k v result

/-- Nobody returns in the course of no moves. -/
lemma Undisturbed.nil : Undisturbed r m [] := by
  intro before mv hb
  simp at hb

/-- Nobody returns in the course of some moves if nobody does by the first one or afterwards. -/
lemma Undisturbed.cons (hmv : ∀ k v result, ¬ Returns m (m.step r mv) k v result)
    (h : Undisturbed r (m.step r mv) moves) : Undisturbed r m (mv :: moves) := by
  intro before mv' hb
  cases before with
  | nil =>
    obtain rfl : mv' = mv := by simpa using hb
    exact hmv
  | cons first before =>
    obtain ⟨rfl, htail⟩ := List.cons_prefix_cons.1 hb
    exact h before mv' htail

/-- Who looks while an interruption is pending is interrupted. -/
lemma Ends.takes (he : Ends r now s w result s') (hi : r.Interruptible pending interrupt) (hp : pending s = true) :
    result = .error .interrupted ∧ pending s' = false := by
  cases he with
  | interrupted => exact ⟨rfl, hi.clear w.demand s⟩
  | ready hn | timedOut hn =>
    rw [hi.seen, hp] at hn
    cases hn

/-- Without a pending interruption, no waiter leaves as interrupted, and none is pending when it has left. -/
lemma Ends.leaves (he : Ends r now s w result s') (hi : r.Interruptible pending interrupt) (hp : pending s = false) :
    result ≠ .error .interrupted ∧ pending s' = false := by
  cases he with
  | interrupted hn =>
    rw [hi.seen, hp] at hn
    cases hn
  | ready _ _ ht =>
    have hkept := hi.take w.demand s
    rw [ht, hp] at hkept
    exact ⟨nofun, hkept⟩
  | timedOut => exact ⟨nofun, hp⟩

/-- A pending interruption stays and no call returns, or the first call that returns takes it. -/
lemma first_interrupted (hi : r.Interruptible pending interrupt) (hp : pending m.state = true)
    (moves : List (Move υ δ)) :
    (pending (m.run r moves).state = true ∧ Undisturbed r m moves) ∨
    ∃ waiting i rest w, moves = waiting ++ .look i :: rest ∧ Undisturbed r m waiting ∧
      Returns (m.run r waiting) ((m.run r waiting).step r (.look i)) i w (.error .interrupted) ∧
      pending ((m.run r waiting).step r (.look i)).state = false := by
  induction moves generalizing m with
  | nil => exact .inl ⟨hp, .nil⟩
  | cons mv later ih =>
    -- a move at which no call returns puts the matter off
    have later_on : (∀ k v result, ¬ Returns m (m.step r mv) k v result) → pending (m.step r mv).state = true →
        (pending (m.run r (mv :: later)).state = true ∧ Undisturbed r m (mv :: later)) ∨
        ∃ waiting i rest w, mv :: later = waiting ++ .look i :: rest ∧ Undisturbed r m waiting ∧
          Returns (m.run r waiting) ((m.run r waiting).step r (.look i)) i w (.error .interrupted) ∧
          pending ((m.run r waiting).step r (.look i)).state = false := by
      intro hno hp'
      rcases ih hp' with ⟨hend, hun⟩ | ⟨waiting, i, rest, w, rfl, hun, hret, hclear⟩
      · exact .inl ⟨hend, hun.cons hno⟩
      · exact .inr ⟨mv :: waiting, i, rest, w, rfl, hun.cons hno, hret, hclear⟩
    cases (steps r m mv).deals with
    | @update u hw hs =>
      apply later_on (not_returns_of_waiters hw)
      rw [hs]
      exact hi.kept u m.state hp
    | @look i w result hw hph hm he =>
      obtain ⟨rfl, hclear⟩ := he.takes hi hp
      exact .inr ⟨[], i, later, w, rfl, .nil, .of_set hw hph hm, hclear⟩
    | quiet _ hs _ hno =>
      apply later_on hno
      rw [hs, hp]

/-- Without a pending interruption, one comes only by being asked for. -/
lemma run_pending (hi : r.Interruptible pending interrupt) (hp : pending m.state = false)
    (hnone : .update interrupt ∉ moves) : pending (m.run r moves).state = false := by
  induction moves generalizing m with
  | nil => exact hp
  | cons mv later ih =>
    rw [List.mem_cons, not_or] at hnone
    apply ih _ hnone.2
    cases (steps r m mv).deals with
    | update _ hs =>
      rw [hs]
      exact hi.other _ _ (fun h => hnone.1 (by rw [h])) hp
    | look _ _ _ he => exact (he.leaves hi hp).2
    | quiet _ hs => rw [hs, hp]

/-- The interruption that is pending at `m` goes to the call of thread `i`: no call returns before, and afterwards a call
is interrupted only if that is asked for again. -/
structure Consumes (r : Resource σ υ δ β) (interrupt : υ) (m : Monitor σ δ β) (waiting rest : List (Move υ δ))
    (i : Nat) : Prop where
  before : Undisturbed r m waiting
  taken : ∃ w, Returns (m.run r waiting) ((m.run r waiting).step r (.look i)) i w (.error .interrupted)
  after : ∀ before mv k v, before ++ [mv] <+: rest →
    Returns (((m.run r waiting).step r (.look i)).run r before)
      ((((m.run r waiting).step r (.look i)).run r before).step r mv) k v (.error .interrupted) →
    .update interrupt ∈ before

/-- What becomes of a sleeper whose call did not take the interruption: it sleeps on, gets what it waits for, runs out of
time, or is interrupted by another interruption. -/
inductive Spared (interrupt : υ) (rest : List (Move υ δ)) (now : Nat) (v : Waiter δ β) : Waiter δ β → Prop where
  | asleep :
    Spared interrupt rest now v v
  | served {b} :
    Spared interrupt rest now v (v.finish (.ok b))
  | timedOut {d} :
    v.deadline = some d →
    d ≤ now →
    Spared interrupt rest now v (v.finish (.error .timedOut))
  | again :
    .update interrupt ∈ rest →
    Spared interrupt rest now v (v.finish (.error .interrupted))

/-- An interruption that is asked for while somebody sleeps has gone to exactly one call as soon as no notification is
due and nobody is about to look; the other sleepers are spared. -/
def SoleInterruption (r : Resource σ υ δ β) (interrupt : υ) (m : Monitor σ δ β) (later : List (Move υ δ)) : Prop :=
  let asked := m.step r (.update interrupt)
  let m' := asked.run r later
  (∃ w ∈ m.waiters, w.phase = .asleep) → m'.unannounced = 0 → (∀ w ∈ m'.waiters, w.phase ≠ .checking) →
    ∃ waiting i rest, later = waiting ++ .look i :: rest ∧ Consumes r interrupt asked waiting rest i ∧
      ∀ k v, k ≠ i → m.waiters[k]? = some v → v.phase = .asleep →
        ∃ v', m'.waiters[k]? = some v' ∧ Spared interrupt rest m'.clock v v'

/-- Once an interruption is taken, another one has to be asked for. -/
lemma consumes_of_returns {waiting rest : List (Move υ δ)} (hi : r.Interruptible pending interrupt)
    (hun : Undisturbed r m waiting)
    (hret : Returns (m.run r waiting) ((m.run r waiting).step r (.look i)) i w (.error .interrupted))
    (hclear : pending ((m.run r waiting).step r (.look i)).state = false) : Consumes r interrupt m waiting rest i where
  before := hun
  taken := ⟨w, hret⟩
  after before mv k v _ hagain := by
    by_contra hnone
    have hp := run_pending hi hclear hnone
    exact (hagain.ends.leaves hi hp).1 rfl

/-- A sleeper that has not taken the interruption is spared. -/
lemma spared_of_consumes {waiting rest : List (Move υ δ)} (hc : Consumes r interrupt m waiting rest i) (hki : k ≠ i)
    (hv : m.waiters[k]? = some v) (hp : v.phase = .asleep)
    (hawake : ∀ w ∈ (m.run r (waiting ++ .look i :: rest)).waiters, w.phase ≠ .checking) :
    ∃ v', (m.run r (waiting ++ .look i :: rest)).waiters[k]? = some v' ∧
      Spared interrupt rest (m.run r (waiting ++ .look i :: rest)).clock v v' := by
  obtain ⟨v', hv', hcont⟩ := run_waiter (r := r) hv (waiting ++ .look i :: rest)
  refine ⟨v', hv', ?_⟩
  have hlive : ∀ result, v.phase ≠ .finished result := by simp [hp]
  cases hp' : v'.phase with
  | checking => exact absurd hp' (hawake v' (List.mem_of_getElem? hv'))
  | asleep =>
    rw [hcont.eq_asleep hp hp']
    exact .asleep
  | finished result =>
    rw [hcont.eq_finish hp']
    obtain ⟨before, mv, u, hb, hret⟩ := returns_of_finished hv hlive hv' hp'
    obtain ⟨u', hu', hvu⟩ := run_waiter (r := r) hv before
    obtain rfl : u' = u := Option.some.inj (hu'.symm.trans hret.1)
    cases result with
    | ok b => exact .served
    | error e =>
      cases e with
      | timedOut =>
        have hclock : (m.run r before).clock ≤ (m.run r (waiting ++ .look i :: rest)).clock := by
          obtain ⟨later, hlater⟩ := (List.prefix_append before [mv]).trans hb
          rw [← hlater, run_append]
          exact run_clock _ later
        obtain ⟨d, hd, hnow⟩ := hret.ends.deadline
        exact .timedOut (hvu.deadline ▸ hd) (Nat.le_trans hnow hclock)
      | interrupted =>
        apply Spared.again
        rcases prefix_append_cons hb with hwaiting | ⟨rfl, rfl⟩ | ⟨between, rfl, hrest⟩
        · exact absurd hret (hc.before before mv hwaiting k _ _)
        · exact absurd hret.of_look hki
        · rw [run_append, run_cons] at hret
          have hasked := hc.after between mv k _ hrest hret
          exact ((List.prefix_append between [mv]).trans hrest).subset hasked

/-- What is asked for while somebody sleeps is taken by exactly one call. -/
theorem interruption_taken (ha : r.Announced) (hi : r.Interruptible pending interrupt) (h : m.Alert r)
    (later : List (Move υ δ)) : SoleInterruption r interrupt m later := by
  intro hsleeper hdue hawake
  let asked := m.step r (.update interrupt)
  let m' := asked.run r later
  have hp : pending asked.state = true := hi.raised m.state
  have halert : m'.Alert r := run_alert ha (step_alert ha h _) later
  rcases first_interrupted hi hp later with ⟨hstill, hun⟩ | ⟨waiting, i, rest, w, rfl, hun, hret, hclear⟩
  · -- the sleeper has not returned and does not look, so it sleeps, though it could go on
    obtain ⟨w, hw, hasleep⟩ := hsleeper
    obtain ⟨k, hk⟩ := List.mem_iff_getElem?.1 hw
    obtain ⟨v, hv, hcont⟩ := run_waiter (r := r) (m := asked) hk later
    have hmem : v ∈ m'.waiters := List.mem_of_getElem? hv
    cases hpv : v.phase with
    | checking => exact absurd hpv (hawake v hmem)
    | asleep =>
      have hlets := halert hdue v hmem hpv
      rw [Resource.lets, hi.seen, hstill] at hlets
      cases hlets
    | finished result =>
      obtain ⟨before, mv, u, hb, hret⟩ := returns_of_finished (m := asked) hk (by simp [hasleep]) hv hpv
      exact absurd hret (hun before mv hb k u result)
  · have hc : Consumes r interrupt asked waiting rest i := consumes_of_returns hi hun hret hclear
    exact ⟨waiting, i, rest, rfl, hc, fun k v hki hv hpv => spared_of_consumes hc hki hv hpv hawake⟩

end Monitor

/-! ### Semaphores and handoffs -/

/-- With no more permits and no new interruption, nobody can go on who could not before. -/
lemma Semaphore.tightens {s s' : Semaphore} (hp : s'.permits.toNat ≤ s.permits.toNat)
    (hi : s'.interruptPending = true → s.interruptPending = true) : resource.Tightens s s' := by
  intro n h
  show (s.interruptPending || decide (n ≤ s.permits)) = true
  rcases Bool.or_eq_true_iff.1 h with h | h
  · rw [hi h]
    rfl
  · have hn : n ≤ s'.permits := of_decide_eq_true h
    have hle : n ≤ s.permits := UInt32.le_iff_toNat_le.2 (Nat.le_trans (UInt32.le_iff_toNat_le.1 hn) hp)
    rw [decide_eq_true hle, Bool.or_true]

/-- A semaphore announces what lets waiters go on: its releases and interruptions notify. -/
lemma Semaphore.announced : resource.Announced where
  update u s hquiet := by
    cases u with
    | tryAcquire =>
      have := tryAcquire_permits s
      exact tightens (by show s.tryAcquire.2.permits.toNat ≤ _; omega) fun h =>
        (tryAcquire_interruptPending s).symm.trans h
    | release n => cases hquiet
    | interrupt => cases hquiet
  take n s hr := by
    have := take_permits (of_decide_eq_true hr)
    exact tightens (by show (s.take n).permits.toNat ≤ _; omega) id
  clear _ _ := tightens (Nat.le_refl _) nofun

/-- An interruption of a semaphore is pending until a waiter takes it. -/
lemma Semaphore.interruptible : resource.Interruptible (·.interruptPending) .interrupt where
  seen _ _ := rfl
  raised _ := rfl
  kept u s h := by
    cases u with
    | tryAcquire => exact (tryAcquire_interruptPending s).trans h
    | release n => exact h
    | interrupt => rfl
  other u s hu h := by
    cases u with
    | tryAcquire => exact (tryAcquire_interruptPending s).trans h
    | release n => exact h
    | interrupt => exact absurd rfl hu
  take _ _ := rfl
  clear _ _ := rfl

namespace Handoff

variable {α : Type}

/-- With no more permits and no new interruption, nobody can go on who could not before. -/
lemma tightens {h h' : Handoff α} (hp : h'.permits ≤ h.permits)
    (hi : h'.interruptPending = true → h.interruptPending = true) : (resource α).Tightens h h' := by
  intro _ hlets
  show (h.interruptPending || decide (0 < h.permits)) = true
  rcases Bool.or_eq_true_iff.1 hlets with hlets | hlets
  · rw [hi hlets]
    rfl
  · have hpos : 0 < h'.permits := of_decide_eq_true hlets
    rw [decide_eq_true (Nat.lt_of_lt_of_le hpos hp), Bool.or_true]

/-- A completion leaves interruptions as they are. -/
lemma complete_interruptPending (a : α) (h : Handoff α) : (h.complete a).2.interruptPending = h.interruptPending := by
  cases hv : h.value with
  | none => rw [complete_of_none hv]
  | some b => rw [complete_of_some hv]

/-- A handoff announces what lets waiters go on: its completions, releases and interruptions notify. -/
lemma announced : (resource α).Announced where
  update u h hquiet := by
    cases u with
    | complete a =>
      cases hv : h.value with
      | none =>
        rw [show (resource α).update (.complete a) h = _ from complete_of_none hv a] at hquiet
        cases hquiet
      | some b =>
        rw [show (resource α).update (.complete a) h = _ from complete_of_some hv a]
        exact fun _ => id
    | releaseEmpty => cases hquiet
    | interrupt => cases hquiet
  take _ h _ := tightens (Nat.sub_le ..) id
  clear _ _ := tightens (Nat.le_refl _) nofun

/-- An interruption of a handoff is pending until a waiter takes it. -/
lemma interruptible : (resource α).Interruptible (·.interruptPending) .interrupt where
  seen _ _ := rfl
  raised _ := rfl
  kept u h hp := by
    cases u with
    | complete a => exact (complete_interruptPending a h).trans hp
    | releaseEmpty => exact hp
    | interrupt => rfl
  other u h hu hp := by
    cases u with
    | complete a => exact (complete_interruptPending a h).trans hp
    | releaseEmpty => exact hp
    | interrupt => exact absurd rfl hu
  take _ _ := rfl
  clear _ _ := rfl

end Handoff

namespace Monitor

/-- On a monitor without waiters nobody sleeps. -/
lemma alert_of_nil {r : Resource σ υ δ β} {m : Monitor σ δ β} (h : m.waiters = []) : m.Alert r := by
  intro _ w hw
  rw [h] at hw
  cases hw

/-- Whatever is done with a semaphore or a handoff, and in whatever order: whoever sleeps when no notification is due
lacks permits and is not interrupted, even if others are still about to look; and an interruption that is asked for
while somebody sleeps goes to exactly one call. -/
theorem no_idle_sleeper :
    (∀ (initial : UInt32) (moves : List (Move Semaphore.Update UInt32)),
      let m := (Semaphore.opened initial).run Semaphore.resource moves
      (m.unannounced = 0 → ∀ w ∈ m.waiters, w.phase = .asleep →
        m.state.permits < w.demand ∧ m.state.interruptPending = false) ∧
      ∀ later, SoleInterruption Semaphore.resource .interrupt m later) ∧
    (∀ (α : Type) (moves : List (Move (Handoff.Update α) Unit)),
      let m := Handoff.opened.run (Handoff.resource α) moves
      (m.unannounced = 0 → ∀ w ∈ m.waiters, w.phase = .asleep →
        m.state.permits = 0 ∧ m.state.interruptPending = false) ∧
      ∀ later, SoleInterruption (Handoff.resource α) .interrupt m later) := by
  constructor
  · intro initial moves m
    have halert : m.Alert Semaphore.resource := run_alert Semaphore.announced (alert_of_nil rfl) moves
    refine ⟨fun hdue w hw hp => ?_, interruption_taken Semaphore.announced Semaphore.interruptible halert⟩
    obtain ⟨hi, hr⟩ := Bool.or_eq_false_iff.1 (halert hdue w hw hp)
    exact ⟨UInt32.not_le.1 (of_decide_eq_false hr), hi⟩
  · intro α moves m
    have halert : m.Alert (Handoff.resource α) := run_alert Handoff.announced (alert_of_nil rfl) moves
    refine ⟨fun hdue w hw hp => ?_, interruption_taken Handoff.announced Handoff.interruptible halert⟩
    obtain ⟨hi, hr⟩ := Bool.or_eq_false_iff.1 (halert hdue w hw hp)
    exact ⟨Nat.eq_zero_of_not_pos (of_decide_eq_false hr), hi⟩

/-- One permit, and two calls that ask for more. An interruption wakes both, the second one takes it, and the first one
sleeps on for want of permits. -/
theorem no_idle_sleeper_twoSleepers :
    let m := (Semaphore.opened 1).run Semaphore.resource [.enter 2 none, .enter 3 none, .look 0, .look 1]
    let later := [.announce, .look 1, .look 0]
    m.state.permits < 2 ∧
    (∃ waiting i rest, later = waiting ++ .look i :: rest ∧
      Consumes Semaphore.resource .interrupt (m.step Semaphore.resource (.update .interrupt)) waiting rest i ∧
      ∀ k v, k ≠ i → m.waiters[k]? = some v → v.phase = .asleep →
        ∃ v', ((m.step Semaphore.resource (.update .interrupt)).run Semaphore.resource later).waiters[k]? = some v' ∧
          Spared Semaphore.Update.interrupt rest 0 v v') ∧
    (Handoff.opened.run (Handoff.resource Nat) [.enter () none, .look 0]).state.permits = 0 := by
  intro m later
  obtain ⟨hsem, hhand⟩ := no_idle_sleeper
  have hfirst : (⟨2, none, .asleep⟩ : Waiter UInt32 Unit) ∈ m.waiters := List.mem_cons_self ..
  have hquiet : ∀ w ∈ ((m.step Semaphore.resource (.update .interrupt)).run Semaphore.resource later).waiters,
      w.phase ≠ .checking := by
    intro w hw
    have hw : w ∈ [(⟨2, none, .asleep⟩ : Waiter UInt32 Unit), ⟨3, none, .finished (.error .interrupted)⟩] := hw
    rcases List.mem_cons.1 hw with rfl | hw
    · nofun
    · obtain rfl := List.mem_singleton.1 hw
      nofun
  refine ⟨((hsem 1 _).1 rfl _ hfirst rfl).1, (hsem 1 _).2 later ⟨_, hfirst, rfl⟩ rfl hquiet, ?_⟩
  exact ((hhand Nat _).1 rfl ⟨(), none, .asleep⟩ (List.mem_cons_self ..) rfl).1

end Monitor

end MessageBox
