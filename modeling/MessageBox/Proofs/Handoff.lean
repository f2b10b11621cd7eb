import MessageBox.Proofs.Sync.Monitor

/-!
# A handoff is written once

Threads complete, release, wait and interrupt in any order. A move records a value only where there is none, and a
value that is recorded stays (`step_value`), so the completions that are granted are as many as there are values. The
permits that a move finds and brings are those it leaves and hands out (`step_permits`), and what a call gets with its
permit is the value of that moment (`Delivers`). The main statement is `handoff_write_once`.
-/

namespace MessageBox.Handoff

open Monitor

variable {α : Type}

/-! ### What is counted -/

/-- A handoff without a value, and nobody waiting. -/
def opened : Monitor (Handoff α) Unit (Option α) := { state := {} }

/-- Permits that a call got. -/
def obtained (_ : Unit) : Except WaitFailure (Option α) → Nat
  | .ok _ => 1
  | .error _ => 0

/-- Completions that are granted. -/
def completed : Update α → Handoff α → Nat
  | .complete a, h => (h.complete a).1.toNat
  | _, _ => 0

/-- Releases without a value. -/
def emptied : Update α → Handoff α → Nat
  | .releaseEmpty, _ => 1
  | _, _ => 0

/-! ### Operations -/

/-- Without a value, a completion is granted: it stores its value and brings a permit. -/
lemma complete_of_none {h : Handoff α} (hv : h.value = none) (a : α) :
    h.complete a = (true, { h with value := some a, permits := h.permits + 1 }) := by
  unfold complete
  rw [hv]

/-- With a value, a completion is not granted and changes nothing. -/
lemma complete_of_some {h : Handoff α} {b : α} (hv : h.value = some b) (a : α) : h.complete a = (false, h) := by
  unfold complete
  rw [hv]

/-- A completion is granted just if there is no value. -/
lemma complete_granted {h : Handoff α} {a : α} : (h.complete a).1 = true ↔ h.value = none := by
  cases hv : h.value with
  | none => simp [complete_of_none hv]
  | some b => simp [complete_of_some hv]

/-- An update brings a permit for a completion that is granted, and one for a release without a value. -/
lemma update_permits (u : Update α) (h : Handoff α) :
    ((resource α).update u h).2.permits = h.permits + (completed u h + emptied u h) := by
  cases u with
  | complete a =>
    show (h.complete a).2.permits = h.permits + ((h.complete a).1.toNat + 0)
    cases hv : h.value with
    | none => rw [complete_of_none hv]; rfl
    | some b => rw [complete_of_some hv]; rfl
  | releaseEmpty => rfl
  | interrupt => rfl

/-- An update brings a value just by a completion that is granted. -/
lemma update_value (u : Update α) (h : Handoff α) :
    ((resource α).update u h).2.value.isSome.toNat = h.value.isSome.toNat + completed u h := by
  cases u with
  | complete a =>
    show (h.complete a).2.value.isSome.toNat = h.value.isSome.toNat + (h.complete a).1.toNat
    cases hv : h.value with
    | none => rw [complete_of_none hv]; rfl
    | some b => rw [complete_of_some hv, hv]; rfl
  | releaseEmpty => rfl
  | interrupt => rfl

/-- No update changes a value that is there. -/
lemma update_keeps {a : α} (u : Update α) {h : Handoff α} (hv : h.value = some a) :
    ((resource α).update u h).2.value = some a := by
  cases u with
  | complete b =>
    show (h.complete b).2.value = some a
    rw [complete_of_some hv, hv]
  | releaseEmpty => exact hv
  | interrupt => exact hv

/-! ### How a call ends -/

section
variable {now : Nat} {h h' : Handoff α} {w : Waiter Unit (Option α)} {result : Except WaitFailure (Option α)}

/-- However a call ends, the value is as it was. -/
lemma ends_value (he : Ends (resource α) now h w result h') : h'.value = h.value := by
  cases he with
  | interrupted => rfl
  | ready _ _ ht =>
    obtain ⟨-, rfl⟩ := Prod.mk.inj ht
    rfl
  | timedOut => rfl

/-- A call that ends takes the permits that it got. -/
lemma ends_permits (he : Ends (resource α) now h w result h') :
    h'.permits + obtained w.demand result = h.permits := by
  cases he with
  | interrupted => rfl
  | ready _ hr ht =>
    have hpos : 0 < h.permits := of_decide_eq_true hr
    obtain ⟨-, rfl⟩ := Prod.mk.inj ht
    show h.permits - 1 + 1 = h.permits
    omega
  | timedOut => rfl

/-- What a call gets with its permit is the value of that moment. -/
lemma ends_ok {b : Option α} (he : Ends (resource α) now h w (.ok b) h') : b = h.value := by
  cases he with
  | ready _ _ ht => exact (Prod.mk.inj ht).1.symm

end

/-! ### One move -/

/-- Every move keeps the balance of permits: what is there and what calls have got is what updates have brought. -/
lemma step_permits (m : Monitor (Handoff α) Unit (Option α)) (mv : Move (Update α) Unit) :
    (m.step (resource α) mv).state.permits + (m.step (resource α) mv).returned obtained =
      m.state.permits + m.returned obtained + m.charge (completed + emptied) mv := by
  have hd := (steps (resource α) m mv).deals
  generalize m.step (resource α) mv = m' at hd ⊢
  rw [charge_add]
  cases hd with
  | @update u hw hs =>
    have hr : m'.returned obtained = m.returned obtained := by rw [returned, hw, returned]
    rw [hr, hs, charge_update, charge_update, update_permits]
    omega
  | look hw hp hm he =>
    rw [returned_set hw hp hm, Waiter.worth_finish, charge_look, charge_look]
    have := ends_permits he
    omega
  | quiet hu hs hr =>
    rw [hs, hr, charge_eq_zero hu, charge_eq_zero hu]
    rfl

/-- Every move brings a value just by a completion that is granted. -/
lemma step_value (m : Monitor (Handoff α) Unit (Option α)) (mv : Move (Update α) Unit) :
    (m.step (resource α) mv).state.value.isSome.toNat = m.state.value.isSome.toNat + m.charge completed mv := by
  have hd := (steps (resource α) m mv).deals
  generalize m.step (resource α) mv = m' at hd ⊢
  cases hd with
  | update _ hs => rw [hs, update_value, charge_update]
  | look _ _ _ he => rw [ends_value he, charge_look, Nat.add_zero]
  | quiet hu hs => rw [hs, charge_eq_zero hu, Nat.add_zero]

/-- No move changes a value that is there. -/
lemma step_keeps {a : α} (m : Monitor (Handoff α) Unit (Option α)) (mv : Move (Update α) Unit)
    (hv : m.state.value = some a) : (m.step (resource α) mv).state.value = some a := by
  have hd := (steps (resource α) m mv).deals
  generalize m.step (resource α) mv = m' at hd ⊢
  cases hd with
  | update _ hs =>
    rw [hs]
    exact update_keeps _ hv
  | look _ _ _ he => rw [ends_value he, hv]
  | quiet _ hs => rw [hs, hv]

/-- What a move may do to value and permits, by what the thread that makes it gets. -/
structure Delivers (m m' : Monitor (Handoff α) Unit (Option α)) (mv : Move (Update α) Unit) : Prop where
  /-- A completion that is granted records its value and brings one permit. -/
  granted : ∀ {a}, mv = .update (.complete a) → (m.state.complete a).1 = true →
    m'.state.value = some a ∧ m'.state.permits = m.state.permits + 1
  /-- One that is not changes nothing, and so it owes nobody a wake-up. -/
  refused : ∀ {a}, mv = .update (.complete a) → (m.state.complete a).1 = false → m' = m
  kept : ∀ {a}, m.state.value = some a → m'.state.value = some a
  /-- A call that succeeds takes one permit and returns the value of that moment. -/
  obtained : ∀ {i w b}, Returns m m' i w (.ok b) →
    m'.state.permits + 1 = m.state.permits ∧ b = m.state.value ∧ m'.state.value = m.state.value
  failed : ∀ {i w e}, Returns m m' i w (.error e) →
    m'.state.permits = m.state.permits ∧ m'.state.value = m.state.value
  /-- Permits go to calls that succeed only. -/
  taken : m'.state.permits < m.state.permits → ∃ i w b, Returns m m' i w (.ok b)

/-- A completion in an interleaving stores its value and a permit if it is granted, and changes nothing otherwise. -/
lemma step_complete (m : Monitor (Handoff α) Unit (Option α)) (a : α) :
    ((m.state.complete a).1 = true → (m.step (resource α) (.update (.complete a))).state =
      { m.state with value := some a, permits := m.state.permits + 1 }) ∧
    ((m.state.complete a).1 = false → m.step (resource α) (.update (.complete a)) = m) := by
  show (_ → (m.state.complete a).2 = _) ∧
    (_ → ({ m with state := (m.state.complete a).2, unannounced := if (m.state.complete a).1 && true then _ else _ } :
      Monitor (Handoff α) Unit (Option α)) = m)
  cases hv : m.state.value with
  | none =>
    rw [complete_of_none hv]
    exact ⟨fun _ => rfl, nofun⟩
  | some b =>
    rw [complete_of_some hv]
    exact ⟨nofun, fun _ => rfl⟩

/-- Every move does to value and permits what the thread that makes it gets. -/
theorem step_delivers (m : Monitor (Handoff α) Unit (Option α)) (mv : Move (Update α) Unit) :
    Delivers m (m.step (resource α) mv) mv where
  granted hu hg := by
    subst hu
    rw [(step_complete m _).1 hg]
    exact ⟨rfl, rfl⟩
  refused hu hg := by
    subst hu
    exact (step_complete m _).2 hg
  kept hv := step_keeps m mv hv
  obtained {i w b} hret := by
    cases (steps (resource α) m mv).deals with
    | update hw => exact absurd hret (not_returns_of_waiters hw i w _)
    | look hw _ hm he =>
      obtain ⟨-, -, rfl⟩ := hret.eq_of_set hw hm
      exact ⟨ends_permits he, ends_ok he, ends_value he⟩
    | quiet _ _ _ hno => exact absurd hret (hno i w _)
  failed {i w e} hret := by
    cases (steps (resource α) m mv).deals with
    | update hw => exact absurd hret (not_returns_of_waiters hw i w _)
    | look hw _ hm he =>
      obtain ⟨-, -, rfl⟩ := hret.eq_of_set hw hm
      exact ⟨ends_permits he, ends_value he⟩
    | quiet _ _ _ hno => exact absurd hret (hno i w _)
  taken hlt := by
    cases (steps (resource α) m mv).deals with
    | @update u _ hs =>
      rw [hs, update_permits] at hlt
      omega
    | @look i w result hw hp hm he =>
      have := ends_permits he
      cases result with
      | ok b => exact ⟨i, w, b, .of_set hw hp hm⟩
      | error e => exact absurd hlt (by rw [← this]; exact Nat.lt_irrefl _)
    | quiet _ hs =>
      rw [hs] at hlt
      exact absurd hlt (Nat.lt_irrefl _)

/-! ### Every interleaving -/

/-- A value that is there stays so in an interleaving. -/
lemma run_keeps {a : α} {m : Monitor (Handoff α) Unit (Option α)} (hv : m.state.value = some a)
    (moves : List (Move (Update α) Unit)) : (m.run (resource α) moves).state.value = some a := by
  induction moves generalizing m with
  | nil => exact hv
  | cons mv later ih =>
    apply ih
    exact step_keeps m mv hv

/-- In an interleaving, the permits that are there and those that calls have got are as many as granted completions and
releases without a value. -/
lemma run_permits (moves : List (Move (Update α) Unit)) :
    (opened.run (resource α) moves).state.permits + (opened.run (resource α) moves).returned obtained =
      opened.charges (resource α) completed moves + opened.charges (resource α) emptied moves := by
  have h := run_gain (fun m => m.state.permits + m.returned obtained) step_permits (opened (α := α)) moves
  rw [charges_add] at h
  exact h.trans (Nat.zero_add _)

/-- There are as many values as completions that were granted. -/
lemma run_value (moves : List (Move (Update α) Unit)) :
    (opened.run (resource α) moves).state.value.isSome.toNat = opened.charges (resource α) completed moves := by
  have h := run_gain (fun m => m.state.value.isSome.toNat) step_value (opened (α := α)) moves
  exact h.trans (Nat.zero_add _)

/-- The value of a completion that was granted is there ever after. -/
lemma run_completed {before moves : List (Move (Update α) Unit)} {a : α}
    (hb : before ++ [.update (.complete a)] <+: moves)
    (hg : ((opened.run (resource α) before).state.complete a).1 = true) :
    (opened.run (resource α) moves).state.value = some a := by
  obtain ⟨later, rfl⟩ := hb
  rw [run_append, run_append]
  apply run_keeps
  exact ((step_delivers _ _).granted rfl hg).1

/-- As long as there is no value, nobody has tried to record one. -/
lemma not_mem_of_value_none {moves : List (Move (Update α) Unit)}
    (hv : (opened.run (resource α) moves).state.value = none) (a : α) : .update (.complete a) ∉ moves := by
  intro hmem
  obtain ⟨before, later, rfl⟩ := List.append_of_mem hmem
  have hb : before ++ [.update (.complete a)] <+: before ++ .update (.complete a) :: later :=
    ⟨later, by simp⟩
  cases hvb : (opened.run (resource α) before).state.value with
  | none =>
    -- the attempt would have been granted
    have hsome := run_completed hb (complete_granted.2 hvb)
    rw [hv] at hsome
    cases hsome
  | some b =>
    rw [run_append, run_keeps hvb] at hv
    cases hv

/-- A call that returns without a value lives on a permit that was released without one. -/
lemma emptied_of_returns_none {moves : List (Move (Update α) Unit)} {m' : Monitor (Handoff α) Unit (Option α)}
    {mv : Move (Update α) Unit} {i : Nat} {w : Waiter Unit (Option α)}
    (hd : Delivers (opened.run (resource α) moves) m' mv)
    (hret : Returns (opened.run (resource α) moves) m' i w (.ok none)) :
    0 < opened.charges (resource α) emptied moves ∧ ∀ a, .update (.complete a) ∉ moves := by
  obtain ⟨hpermits, hvalue, -⟩ := hd.obtained hret
  have hcompleted := run_value moves
  have hbalance := run_permits moves
  rw [← hvalue] at hcompleted
  have hnone : opened.charges (resource α) completed moves = 0 := hcompleted.symm
  exact ⟨by omega, not_mem_of_value_none hvalue.symm⟩

/-- In every interleaving at most one completion is granted, and from then on its value is there; the permits that are
there and the calls that got one are as many as the completions that were granted and the releases without a value, so
that a 32-bit word holds them if it holds their number; every move delivers as `Delivers` says; and a call gets a
permit without a value only after a release without one, and before any completion. -/
theorem handoff_write_once (moves : List (Move (Update α) Unit)) :
    let start := opened (α := α)
    let m := start.run (resource α) moves
    let completions := start.charges (resource α) completed moves
    let releases := start.charges (resource α) emptied moves
    completions ≤ 1 ∧
    (∀ before a, before ++ [.update (.complete a)] <+: moves →
      ((start.run (resource α) before).state.complete a).1 = true → m.state.value = some a) ∧
    m.state.permits + m.returned obtained = completions + releases ∧
    (completions + releases < UInt32.size → m.state.permits < UInt32.size) ∧
    ∀ mv, Delivers m (m.step (resource α) mv) mv ∧
      ∀ i w, Returns m (m.step (resource α) mv) i w (.ok none) →
        0 < releases ∧ ∀ a, .update (.complete a) ∉ moves := by
  intro start m completions releases
  have hvalue : m.state.value.isSome.toNat = completions := run_value moves
  have hpermits : m.state.permits + m.returned obtained = completions + releases := run_permits moves
  refine ⟨?_, fun before a hb hg => run_completed hb hg, hpermits, by omega, fun mv => ⟨step_delivers m mv, ?_⟩⟩
  · rw [← hvalue]
    exact Bool.toNat_le _
  · intro i w hret
    exact emptied_of_returns_none (step_delivers m mv) hret

/-- A call that sleeps is let go without a value. Then seven is recorded, eight is refused, and who comes now gets
seven. -/
theorem handoff_write_once_lateValue :
    let early : List (Move (Update Nat) Unit) := [.enter () none, .look 0, .update .releaseEmpty, .announce]
    let late := early ++ [.look 0, .update (.complete 7), .enter () (some 5)]
    let m := opened.run (resource Nat) early
    let m' := opened.run (resource Nat) late
    Returns m (m.step (resource Nat) (.look 0)) 0 ⟨(), none, .checking⟩ (.ok none) ∧
    0 < opened.charges (resource Nat) emptied early ∧
    m'.state.value = some 7 ∧
    m'.step (resource Nat) (.update (.complete 8)) = m' ∧
    Returns m' (m'.step (resource Nat) (.look 1)) 1 ⟨(), some 5, .checking⟩ (.ok (some 7)) ∧
    (m'.step (resource Nat) (.look 1)).state.permits + 1 = m'.state.permits := by
  intro early late m m'
  have hnone : Returns m (m.step (resource Nat) (.look 0)) 0 ⟨(), none, .checking⟩ (.ok none) := ⟨rfl, by simp, rfl⟩
  have hseven : Returns m' (m'.step (resource Nat) (.look 1)) 1 ⟨(), some 5, .checking⟩ (.ok (some 7)) :=
    ⟨rfl, by simp, rfl⟩
  obtain ⟨-, -, -, -, hearly⟩ := handoff_write_once early
  obtain ⟨-, hrecorded, -, -, hlate⟩ := handoff_write_once late
  have hvalue : m'.state.value = some 7 := hrecorded (early ++ [.look 0]) 7 ⟨[.enter () (some 5)], rfl⟩ rfl
  exact ⟨hnone, ((hearly (.look 0)).2 0 _ hnone).1, hvalue, (hlate (.update (.complete 8))).1.refused rfl rfl, hseven,
    ((hlate (.look 1)).1.obtained hseven).1⟩

end MessageBox.Handoff
