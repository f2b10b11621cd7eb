import MessageBox.Proofs.Sync.Monitor

/-!
# Accounts of a semaphore

Threads acquire, try, release and interrupt in any order. The permits that a move finds and brings are those it
leaves, hands out and drops at the limit (`step_permits`), and the interruptions it finds and brings are those it
leaves, delivers and merges with a pending one (`step_interruptions`). So the accounts balance after every
interleaving (`semaphore_accounting`).
-/

namespace MessageBox.Semaphore

open Monitor

/-! ### Operations -/

/-- Taking permits that are there leaves the others. -/
lemma take_permits {n : UInt32} {s : Semaphore} (h : n ≤ s.permits) :
    (s.take n).permits.toNat + n.toNat = s.permits.toNat := by
  have := UInt32.le_iff_toNat_le.1 h
  rw [take, UInt32.toNat_sub_of_le _ _ h]
  omega

/-- An attempt takes a permit if it gets one, and nothing otherwise. -/
lemma tryAcquire_permits (s : Semaphore) :
    s.tryAcquire.2.permits.toNat + s.tryAcquire.1.toNat = s.permits.toNat := by
  unfold tryAcquire
  split
  case isTrue h =>
    have h1 : 1 ≤ s.permits := UInt32.le_iff_toNat_le.2 (UInt32.lt_iff_toNat_lt.1 h)
    exact take_permits h1
  case isFalse => rfl

/-- An attempt leaves interruptions as they are. -/
lemma tryAcquire_interruptPending (s : Semaphore) :
    s.tryAcquire.2.interruptPending = s.interruptPending := by
  unfold tryAcquire
  split <;> rfl

/-- A release adds its permits, up to the limit. -/
lemma release_permits (n : UInt32) (s : Semaphore) :
    (s.release n).permits.toNat = min (s.permits.toNat + n.toNat) limit := by
  unfold release
  split
  case isTrue h =>
    rw [Nat.min_eq_left h]
    simp only [UInt32.toNat_add]
    exact Nat.mod_eq_of_lt (by simp only [limit] at h; omega)
  case isFalse h =>
    rw [Nat.min_eq_right (by omega)]
    rfl

/-- There are never more permits than the limit. -/
lemma permits_le_limit (s : Semaphore) : s.permits.toNat ≤ limit :=
  Nat.le_of_lt_succ s.permits.toNat_lt

/-- A release takes no permits away. -/
lemma permits_le_release (n : UInt32) (s : Semaphore) : s.permits.toNat ≤ (s.release n).permits.toNat := by
  rw [release_permits]
  exact Nat.le_min.2 ⟨Nat.le_add_right _ _, s.permits_le_limit⟩

/-! ### What is counted -/

/-- A semaphore with its first permits, and nobody waiting. -/
def opened (initial : UInt32) : Monitor Semaphore UInt32 Unit := { state := { permits := initial } }

/-- Permits that a call got. -/
def acquired (demand : UInt32) : Except WaitFailure Unit → Nat
  | .ok () => demand.toNat
  | .error _ => 0

/-- Interruptions that a call got. -/
def interruption (_ : UInt32) : Except WaitFailure Unit → Nat
  | .error .interrupted => 1
  | _ => 0

/-- Permits that an attempt got. -/
def granted : Update → Semaphore → Nat
  | .tryAcquire, s => s.tryAcquire.1.toNat
  | _, _ => 0

/-- Permits that a release brings. -/
def released : Update → Semaphore → Nat
  | .release n, _ => n.toNat
  | _, _ => 0

/-- Permits of a release that do not fit. -/
def dropped : Update → Semaphore → Nat
  | .release n, s => s.permits.toNat + n.toNat - limit
  | _, _ => 0

/-- A release keeps what fits and drops the rest. -/
lemma release_permits_add (n : UInt32) (s : Semaphore) :
    (s.release n).permits.toNat + dropped (.release n) s = s.permits.toNat + n.toNat := by
  rw [release_permits, dropped]
  generalize limit = top
  omega

/-- A release drops nothing just if its permits fit. -/
lemma dropped_release_eq_zero {n : UInt32} {s : Semaphore} :
    dropped (.release n) s = 0 ↔ s.permits.toNat + n.toNat ≤ limit := by
  rw [dropped]
  exact Nat.sub_eq_zero_iff_le

/-- Interruptions that are asked for. -/
def raised : Update → Semaphore → Nat
  | .interrupt, _ => 1
  | _, _ => 0

/-- Interruptions that fall on one that is pending. -/
def merged : Update → Semaphore → Nat
  | .interrupt, s => s.interruptPending.toNat
  | _, _ => 0

/-! ### One move -/

/-- The permits after an update, with those that an attempt gets and those that a release drops, are the ones before and
those that are released. -/
lemma update_permits (u : Update) (s : Semaphore) :
    (resource.update u s).2.permits.toNat + granted u s + dropped u s = s.permits.toNat + released u s := by
  cases u with
  | tryAcquire => exact tryAcquire_permits s
  | release n => exact release_permits_add n s
  | interrupt => rfl

/-- An interruption is pending after an update, or has fallen on one that is pending, just if one was or is asked for.
-/
lemma update_interruptPending (u : Update) (s : Semaphore) :
    (resource.update u s).2.interruptPending.toNat + merged u s = s.interruptPending.toNat + raised u s := by
  cases u with
  | tryAcquire => exact congrArg Bool.toNat (tryAcquire_interruptPending s)
  | release n => rfl
  | interrupt => exact Nat.add_comm 1 _

/-- Permits found and brought are permits left, handed out and dropped. -/
lemma step_permits (m : Monitor Semaphore UInt32 Unit) (mv : Move Update UInt32) :
    (m.step resource mv).state.permits.toNat + (m.step resource mv).returned acquired +
        m.charge (granted + dropped) mv =
      m.state.permits.toNat + m.returned acquired + m.charge released mv := by
  have hd := (steps resource m mv).deals
  generalize m.step resource mv = m' at hd ⊢
  rw [charge_add]
  cases hd with
  | @update u hw hs =>
    have hr : m'.returned acquired = m.returned acquired := by rw [returned, hw, returned]
    rw [hr, hs, charge_update, charge_update, charge_update]
    have := update_permits u m.state
    omega
  | look hw hp hm he =>
    rw [returned_set hw hp hm, Waiter.worth_finish]
    generalize hs : m'.state = s at he
    cases he with
    | interrupted => simp [charge, acquired, resource, wait]
    | ready _ hr ht =>
      have := take_permits (of_decide_eq_true hr)
      obtain ⟨-, rfl⟩ := Prod.mk.inj ht
      simp only [charge, acquired]
      omega
    | timedOut => simp [charge, acquired]
  | quiet hu hs hr =>
    rw [hs, hr, charge_eq_zero hu, charge_eq_zero hu, charge_eq_zero hu]

/-- Interruptions found and asked for are those left, delivered and merged. -/
lemma step_interruptions (m : Monitor Semaphore UInt32 Unit) (mv : Move Update UInt32) :
    (m.step resource mv).state.interruptPending.toNat + (m.step resource mv).returned interruption +
        m.charge merged mv =
      m.state.interruptPending.toNat + m.returned interruption + m.charge raised mv := by
  have hd := (steps resource m mv).deals
  generalize m.step resource mv = m' at hd ⊢
  cases hd with
  | @update u hw hs =>
    have hr : m'.returned interruption = m.returned interruption := by rw [returned, hw, returned]
    rw [hr, hs, charge_update, charge_update]
    have := update_interruptPending u m.state
    omega
  | look hw hp hm he =>
    rw [returned_set hw hp hm, Waiter.worth_finish]
    generalize hs : m'.state = s at he
    cases he with
    | interrupted hi =>
      have hi : m.state.interruptPending = true := hi
      simp only [charge, interruption, resource, wait, hi, Bool.toNat_true, Bool.toNat_false]
      omega
    | ready _ _ ht =>
      obtain ⟨-, rfl⟩ := Prod.mk.inj ht
      simp [charge, interruption, take]
    | timedOut => simp [charge, interruption]
  | quiet hu hs hr =>
    rw [hs, hr, charge_eq_zero hu, charge_eq_zero hu]

/-- What a move may do to permits and interruption, by what the thread that makes it gets. -/
structure Accounts (m m' : Monitor Semaphore UInt32 Unit) (mv : Move Update UInt32) : Prop where
  /-- A call that succeeds takes all the permits it asked for, and no interruption. -/
  acquired : ∀ {i w}, Returns m m' i w (.ok ()) →
    m'.state.permits.toNat + w.demand.toNat = m.state.permits.toNat ∧
      m'.state.interruptPending = m.state.interruptPending
  /-- A call that is interrupted takes the pending interruption, and no permits. -/
  interrupted : ∀ {i w}, Returns m m' i w (.error .interrupted) →
    m'.state.permits = m.state.permits ∧
      m.state.interruptPending = true ∧ m'.state.interruptPending = false
  timedOut : ∀ {i w}, Returns m m' i w (.error .timedOut) → m'.state = m.state
  /-- An attempt takes one permit if it is granted and none if it is not. -/
  tried : mv = .update .tryAcquire →
    m'.state.permits.toNat + (if m.state.tryAcquire.1 then 1 else 0) = m.state.permits.toNat ∧
      m'.state.interruptPending = m.state.interruptPending
  released : ∀ {n}, mv = .update (.release n) →
    m'.state.permits.toNat = min (m.state.permits.toNat + n.toNat) limit ∧
      m'.state.interruptPending = m.state.interruptPending
  /-- Permits go to a call that succeeds or to an attempt. -/
  taken : m'.state.permits.toNat < m.state.permits.toNat →
    (∃ i w, Returns m m' i w (.ok ())) ∨ mv = .update .tryAcquire
  /-- An interruption goes to a call that is interrupted. -/
  cleared : m.state.interruptPending = true → m'.state.interruptPending = false →
    ∃ i w, Returns m m' i w (.error .interrupted)
  /-- One call at a time. -/
  single : ∀ {i j w v a b}, Returns m m' i w a → Returns m m' j v b → i = j

/-- An update accounts for its permits and interruptions. -/
lemma Accounts.of_update {m m' : Monitor Semaphore UInt32 Unit} {u : Update} (hw : m'.waiters = m.waiters)
    (hs : m'.state = (resource.update u m.state).2) : Accounts m m' (.update u) where
  acquired h := absurd h (not_returns_of_waiters hw _ _ _)
  interrupted h := absurd h (not_returns_of_waiters hw _ _ _)
  timedOut h := absurd h (not_returns_of_waiters hw _ _ _)
  single h := absurd h (not_returns_of_waiters hw _ _ _)
  tried hu := by
    cases hu
    rw [hs]
    have hp := tryAcquire_permits m.state
    refine ⟨?_, tryAcquire_interruptPending m.state⟩
    cases ht : m.state.tryAcquire.1 <;> rw [ht] at hp <;> exact hp
  released hu := by
    cases hu
    rw [hs]
    exact ⟨release_permits _ _, rfl⟩
  taken hlt := by
    rw [hs] at hlt
    cases u with
    | tryAcquire => exact .inr rfl
    | release n => exact absurd hlt (Nat.not_lt.2 (permits_le_release n m.state))
    | interrupt => exact absurd hlt (Nat.lt_irrefl _)
  cleared hi hi' := by
    rw [hs] at hi'
    cases u with
    | tryAcquire => exact absurd ((tryAcquire_interruptPending m.state).symm.trans hi') (by simp [hi])
    | release n => exact absurd (hi.symm.trans hi') (by simp)
    | interrupt => cases hi'

/-- A look that ends a call accounts for what the call gets. -/
lemma Accounts.of_look {m m' : Monitor Semaphore UInt32 Unit} {i : Nat} {w : Waiter UInt32 Unit}
    {result : Except WaitFailure Unit} (hw : m.waiters[i]? = some w) (hp : w.phase = .checking)
    (hm : m'.waiters = m.waiters.set i (w.finish result))
    (he : Ends resource m.clock m.state w result m'.state) : Accounts m m' (.look i) where
  acquired h := by
    obtain ⟨rfl, rfl, rfl⟩ := h.eq_of_set hw hm
    generalize m'.state = s at he ⊢
    cases he with
    | ready _ hr ht =>
      obtain ⟨-, rfl⟩ := Prod.mk.inj ht
      exact ⟨take_permits (of_decide_eq_true hr), rfl⟩
  interrupted h := by
    obtain ⟨rfl, rfl, rfl⟩ := h.eq_of_set hw hm
    generalize m'.state = s at he ⊢
    cases he with
    | interrupted hi => exact ⟨rfl, hi, rfl⟩
  timedOut h := by
    obtain ⟨rfl, rfl, rfl⟩ := h.eq_of_set hw hm
    generalize m'.state = s at he ⊢
    cases he with
    | timedOut => rfl
  tried := nofun
  released := nofun
  taken hlt := by
    have hret := Returns.of_set hw hp hm
    generalize m'.state = s at he hlt
    cases he with
    | interrupted => exact absurd hlt (Nat.lt_irrefl _)
    | ready => exact .inl ⟨i, w, hret⟩
    | timedOut => exact absurd hlt (Nat.lt_irrefl _)
  cleared hi hi' := by
    have hret := Returns.of_set hw hp hm
    generalize m'.state = s at he hi'
    cases he with
    | interrupted => exact ⟨i, w, hret⟩
    | ready hn => exact absurd (hi.symm.trans hn) (by simp)
    | timedOut hn => exact absurd (hi.symm.trans hn) (by simp)
  single h h' := (h.eq_of_set hw hm).1.trans (h'.eq_of_set hw hm).1.symm

/-- Every move accounts for its permits and interruptions. -/
theorem step_accounts (m : Monitor Semaphore UInt32 Unit) (mv : Move Update UInt32) :
    Accounts m (m.step resource mv) mv := by
  cases (steps resource m mv).deals with
  | update hw hs => exact .of_update hw hs
  | look hw hp hm he => exact .of_look hw hp hm he
  | quiet hu hs _ hno =>
    exact {
      acquired := fun h => absurd h (hno _ _ _)
      interrupted := fun h => absurd h (hno _ _ _)
      timedOut := fun _ => hs
      tried := fun h => absurd h (hu _)
      released := fun h => absurd h (hu _)
      taken := fun hlt => absurd (hs ▸ hlt) (Nat.lt_irrefl _)
      cleared := fun hi hi' => absurd (hi.symm.trans (hs ▸ hi')) (by simp)
      single := fun h => absurd h (hno _ _ _) }

/-! ### Every interleaving -/

/-- An interleaving drops no permits just if each release fits where it is made. -/
lemma charges_dropped_eq_zero_iff {m : Monitor Semaphore UInt32 Unit} {moves : List (Move Update UInt32)} :
    m.charges resource dropped moves = 0 ↔
      ∀ before n, before ++ [.update (.release n)] <+: moves →
        (m.run resource before).state.permits.toNat + n.toNat ≤ limit := by
  rw [charges_eq_zero_iff]
  constructor
  · intro h before n hb
    exact dropped_release_eq_zero.1 (h before _ hb)
  · intro h before u hb
    cases u with
    | release n => exact dropped_release_eq_zero.2 (h before n hb)
    | tryAcquire => rfl
    | interrupt => rfl

/-- In an interleaving, permits that are there, were got or dropped are the first ones and those released. -/
lemma run_permits (initial : UInt32) (moves : List (Move Update UInt32)) :
    ((opened initial).run resource moves).state.permits.toNat +
        (((opened initial).run resource moves).returned acquired + (opened initial).charges resource granted moves) +
        (opened initial).charges resource dropped moves =
      initial.toNat + (opened initial).charges resource released moves := by
  have h := run_balance (fun m => m.state.permits.toNat + m.returned acquired) step_permits (opened initial) moves
  rw [charges_add] at h
  have : (opened initial).returned acquired = 0 := rfl
  have : (opened initial).state.permits.toNat = initial.toNat := rfl
  omega

/-- In an interleaving, interruptions that calls got, that are pending or fell on a pending one are those asked for. -/
lemma run_interruptions (initial : UInt32) (moves : List (Move Update UInt32)) :
    ((opened initial).run resource moves).returned interruption +
        ((opened initial).run resource moves).state.interruptPending.toNat +
        (opened initial).charges resource merged moves =
      (opened initial).charges resource raised moves := by
  have h := run_balance (fun m => m.state.interruptPending.toNat + m.returned interruption) step_interruptions
    (opened initial) moves
  have : (opened initial).returned interruption = 0 := rfl
  have : (opened initial).state.interruptPending.toNat = 0 := rfl
  omega

/-- At every moment the permits there and the permits handed out are at most the first ones and the released ones,
and exactly these if every release has fitted; the interruptions delivered, with one that is pending, are at most
those asked for; and every move takes permits and interruptions as its `Accounts` say. -/
theorem semaphore_accounting (initial : UInt32) (moves : List (Move Update UInt32)) :
    let start := opened initial
    let m := start.run resource moves
    let available := m.state.permits.toNat
    let handedOut := m.returned acquired + start.charges resource granted moves
    available + handedOut ≤ initial.toNat + start.charges resource released moves ∧
    (available + handedOut = initial.toNat + start.charges resource released moves ↔
      ∀ before n, before ++ [.update (.release n)] <+: moves →
        (start.run resource before).state.permits.toNat + n.toNat ≤ limit) ∧
    m.returned interruption + (if m.state.interruptPending then 1 else 0) ≤
      start.charges resource raised moves ∧
    ∀ mv, Accounts m (m.step resource mv) mv := by
  intro start m available handedOut
  have hpermits : available + handedOut + start.charges resource dropped moves =
      initial.toNat + start.charges resource released moves := run_permits initial moves
  have hinterrupts : m.returned interruption + m.state.interruptPending.toNat +
      start.charges resource merged moves = start.charges resource raised moves := run_interruptions initial moves
  refine ⟨by omega, ?_, ?_, step_accounts m⟩
  · rw [← charges_dropped_eq_zero_iff]
    omega
  · have : (if m.state.interruptPending then 1 else 0) = m.state.interruptPending.toNat := by
      cases m.state.interruptPending <;> rfl
    omega

/-- The call for three permits sleeps until the release, and the interruption goes to the call that comes in
between. -/
theorem semaphore_accounting_contended :
    let m := (opened 2).run resource
      [.enter 3 none, .look 0, .enter 1 none, .update .interrupt, .look 1, .announce, .update (.release 1), .announce]
    m.returned interruption = 1 ∧
    Returns m (m.step resource (.look 0)) 0 ⟨3, none, .checking⟩ (.ok ()) ∧
    (m.step resource (.look 0)).state.permits.toNat + 3 = m.state.permits.toNat := by
  intro m
  have hret : Returns m (m.step resource (.look 0)) 0 ⟨3, none, .checking⟩ (.ok ()) := ⟨rfl, by simp, rfl⟩
  exact ⟨rfl, hret, (((semaphore_accounting 2 _).2.2.2 (.look 0)).acquired hret).1⟩

end MessageBox.Semaphore
