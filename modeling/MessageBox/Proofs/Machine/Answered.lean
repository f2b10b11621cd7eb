import MessageBox.Proofs.Confinement
import MessageBox.Proofs.Machine.Custody
import MessageBox.Proofs.Machine.Frames

/-!
# Nested runs end with an answer

The token that ends the nested run of a call is signalled by the handler of its dialog, right after it has
recorded the answer, and by nobody else if programs leave these tokens alone (`Reserved`). So a call on the UI
thread collects its outcome only after it was answered (`Fresh.collected`).

The invariant is about code: what ends a nested run, or comes after it, stands directly behind what has to be done
first, as long as the call has no answer (`Backed`).
-/

namespace MessageBox.Machine

/-- A program signals a token, in itself or in a program that it creates. -/
inductive Op.Signals (token : Token) : Op → Prop where
  | signal :
    Signals token (.signal token)
  | body {o body o'} :
    Op.body? o = some body →
    o' ∈ body →
    Signals token o' →
    Signals token o
  | button {d : Dialog (List Op)} {b o} :
    b ∈ d.buttons →
    o ∈ b.action →
    Signals token o →
    Signals token (.offer d)

/-- The tokens that end the nested runs of calls are reserved for them: none is signalled at the start, and no
program signals one. -/
structure Reserved (m : Machine) : Prop where
  signalled : ∀ c, .call c ∉ m.loop.signalled
  programs : ∀ {o}, .op o ∈ m.agenda → ∀ c, ¬ o.Signals (.call c)

/-- Whether an instruction may be executed wherever it stands: on the UI thread only an answered call collects its
outcome, and only the nested run of an answered call is ended. -/
def Instr.Free (m : Machine) : Instr → Prop
  | .collect c => m.In .worker c ∨ m.Answered c
  | .op o => ∀ c, o.Signals (.call c) → o = .signal (.call c) ∧ m.Answered c
  | _ => True

/-- Code in which everything that may not stand everywhere stands behind what it waits for. -/
inductive Backed (m : Machine) : List Instr → Prop where
  | nil :
    Backed m []
  | free {i rest} :
    i.Free m →
    Backed m rest →
    Backed m (i :: rest)
  | nested {c rest} :
    Backed m rest →
    Backed m (.pump (.call c) :: .nestLeft c :: .collect c :: rest)
  | completes {c code rest} :
    Backed m rest →
    Backed m (.complete c code :: .op (.signal (.call c)) :: rest)

/-- What may be executed anywhere may be so on a later machine. -/
lemma Grows.free {m m' : Machine} (h : m.Grows m') {i : Instr} (hi : i.Free m) : i.Free m' := by
  cases i with
  | collect c => exact hi.imp h.in h.answered
  | op o => exact fun c hs => (hi c hs).imp_right h.answered
  | _ => trivial

/-- What stands behind what it waits for does so on a later machine. -/
lemma Grows.backed {m m' : Machine} (h : m.Grows m') {code : List Instr} (hc : Backed m code) :
    Backed m' code := by
  induction hc with
  | nil => exact .nil
  | free hi _ ih => exact .free (h.free hi) ih
  | nested _ ih => exact .nested ih
  | completes _ ih => exact .completes ih

/-- Backed code on top of backed code is backed. -/
lemma Backed.append {m : Machine} {top below : List Instr} (ht : Backed m top) (hb : Backed m below) :
    Backed m (top ++ below) := by
  induction ht with
  | nil => exact hb
  | free hi _ ih => exact .free hi ih
  | nested _ ih => exact .nested ih
  | completes _ ih => exact .completes ih

/-- Code is backed if all of it may be executed anywhere. -/
lemma Backed.of_free {m : Machine} {code : List Instr} (h : ∀ i ∈ code, i.Free m) : Backed m code := by
  induction code with
  | nil => exact .nil
  | cons i rest ih => exact .free (h i (List.mem_cons_self ..)) (ih fun j hj => h j (List.mem_cons_of_mem _ hj))

/-- A panic does not separate what belongs together. -/
lemma Backed.behind {m : Machine} {code behind : List Instr} {token rethrow} (h : Backed m code)
    (hu : (unwind code).2 = some (token, rethrow, behind)) : Backed m behind := by
  induction h with
  | nil => cases hu
  | @free i rest _ hrest ih =>
    cases i with
    | returned =>
      cases hu
      exact hrest
    | _ => exact ih hu
  | nested _ ih => exact ih hu
  | completes _ ih => exact ih hu

/-- A panic signals nothing. -/
lemma Op.not_signals_panic (token : Token) : ¬ Op.panic.Signals token := by
  intro h
  cases h with
  | body hb => cases hb

/-- What a panic leaves of backed code is backed. -/
lemma Backed.caught {m : Machine} {rest : List Instr} (h : Backed m rest) : Backed m (caught rest) := by
  unfold Machine.caught
  split
  · next hu =>
    split
    · exact .free (fun c hs => absurd hs (Op.not_signals_panic _)) (h.behind hu)
    · exact h.behind hu
  · exact .nil

/-! ### What keeps code backed -/

/-- No button of a program's dialog signals a token that is reserved. -/
def Unscripted (m : Machine) : Prop :=
  ∀ {d : DialogId} {o : Offer} {slot body}, m.dialogs[d]? = some o → o.dialog.press slot = .ok (.script body) →
    ∀ o' ∈ body, ∀ c, ¬ o'.Signals (.call c)

/-- An instruction that is free, starts no nested run and presses no button leads to free ones. -/
lemma Leads.free {m m₁ : Machine} {t i j} (h : Leads m t i j) (hg : m.Grows m₁) (hi : i.Sound m)
    (hfree : i.Free m) (hnest : ∀ c, i ≠ .nest c) (hpress : i.press? = none)
    (hview : ∀ view slot, i ≠ .conclude view slot) : j.Free m₁ := by
  cases h with
  | body hb ho =>
    intro c hs
    obtain ⟨rfl, -⟩ := hfree c (.body hb ho hs)
    cases hb
  | join =>
    intro c hs
    cases hs with
    | body hb => cases hb
  | swallowed => exact .inl (hg.in hi)
  | nestCollect => exact absurd rfl (hnest _)
  | accepted _ _ hj =>
    obtain ⟨c, -, rfl⟩ := mem_accepted.1 hj
    trivial
  | refused _ _ _ hj => rcases mem_refused.1 hj with ⟨c, -, rfl | rfl⟩ | ⟨c, -, rfl | rfl | rfl⟩ <;> trivial
  | pressed hp => rw [hpress] at hp; cases hp
  | concluded => exact absurd rfl (hview _ _)
  | _ => trivial

/-- A pressed button answers its call before it ends the nested run. -/
lemma backed_reaction {m : Machine} {reaction : Reaction}
    (h : ∀ {body}, reaction = .script body → ∀ o ∈ body, ∀ c, ¬ o.Signals (.call c)) :
    Backed m reaction.code := by
  cases reaction with
  | script body =>
    refine .of_free fun j hj => ?_
    obtain ⟨o, ho, rfl⟩ := mem_load.1 hj
    exact fun c hs => absurd hs (h rfl o ho c)
  | answer c code stops =>
    cases stops with
    | true => exact .completes .nil
    | false => exact .free trivial .nil

/-- What a free instruction leaves and hands on is backed. -/
lemma Fires.backed_new {m m₁ : Machine} {t i next sent} (hf : Fires m t i next sent m₁) (hm : m.Bare)
    (hi : i.Sound m) (hfree : i.Free m) (hscripts : m.Unscripted)
    (hview : ∀ view slot, i ≠ .conclude view slot) (howner : ∀ c, i = .nest c → m.loop.owner = some t) :
    Backed m₁ next ∧ Backed m₁ sent := by
  by_cases hnest : ∃ c, i = .nest c
  · obtain ⟨c, rfl⟩ := hnest
    have hbind := Loop.bind_own fun u hu => Option.some.inj (hu.symm.trans (howner c rfl))
    cases hf with
    | nest => exact ⟨.nested .nil, .nil⟩
    | nestFailed hn => simp [hm.overrides] at hn
    | nestForeign _ hb =>
      rw [hbind] at hb
      cases hb
    | noCall hi _ => cases hi
    | noOffer hi _ => cases hi
  · cases hpress : i.press? with
    | some p =>
      obtain ⟨rfl, ⟨o, reaction, ho, hr, rfl⟩ | ⟨-, rfl | ⟨place, rfl⟩⟩⟩ := hf.press_cases hpress
      · exact ⟨backed_reaction fun hscript => hscripts ho (hscript ▸ hr), .nil⟩
      · exact ⟨.nil, .nil⟩
      · exact ⟨.free trivial .nil, .nil⟩
    | none =>
      have hleads := fun {j} (hj : j ∈ next ∨ j ∈ sent) =>
        (hf.leads hj).free hf.grows hi hfree (fun c hc => hnest ⟨c, hc⟩) hpress hview
      exact ⟨.of_free fun j hj => hleads (.inl hj), .of_free fun j hj => hleads (.inr hj)⟩

/-- What every run of a headless machine keeps about the nested runs of calls. -/
structure Backing (m : Machine) : Prop where
  codes : ∀ code ∈ m.codes ++ m.loop.queue, Backed m code
  signalled : ∀ {c}, .call c ∈ m.loop.signalled → m.Answered c
  scripts : m.Unscripted

/-- An instruction that comes next is free, or it is one of the two that others stand behind. -/
lemma Fires.backed {m m₁ : Machine} {t i rest next sent} (hf : Fires m t i next sent m₁) (hm : m.Bare)
    (h : m.Backing) (ht : m.codes[t]? = some (i :: rest)) (howner : ∀ c, i = .nest c → m.loop.owner = some t) :
    Backed m₁ (next ++ rest) ∧ Backed m₁ sent := by
  have hg := hf.grows
  have hmem : i ∈ m.agenda := mem_agenda_of_code ht (List.mem_cons_self ..)
  cases h.codes _ (List.mem_append_left _ (List.mem_of_getElem? ht)) with
  | free hi hrest =>
    have hview : ∀ view slot, i ≠ .conclude view slot := fun view slot he =>
      hm.headless.conclude view slot (he ▸ hmem)
    obtain ⟨hnext, hsent⟩ := hf.backed_new hm (hm.sound.agenda _ hmem) hi h.scripts hview howner
    exact ⟨hnext.append (hg.backed hrest), hsent⟩
  | @nested c rest hrest =>
    cases hf with
    | leave hs =>
      -- the run is over, so the call was answered
      exact ⟨.free trivial (.free (.inr (hg.answered (h.signalled hs))) (hg.backed hrest)), .nil⟩
    | doze _ _ => exact ⟨.nested (hg.backed hrest), .nil⟩
    | noCall hi _ => cases hi
    | noOffer hi _ => cases hi
  | @completes c code rest hrest =>
    have hanswered : m₁.Answered c := by
      cases hf with
      | @complete _ _ call hc hnone =>
        exact ⟨code, _, modifyCall_self hc _, by simp [Handoff.complete, hnone]⟩
      | @completeAgain _ _ call hc hsome =>
        obtain ⟨old, hold⟩ := Option.isSome_iff_exists.1 hsome
        exact ⟨old, call, hc, hold⟩
      | noCall hi hn =>
        cases hi
        exact absurd hn ((hm.sound.agenda _ hmem).call_ne_none rfl)
      | noOffer hi _ => cases hi
    have hstop : Backed m₁ (.op (.signal (.call c)) :: rest) := by
      refine .free (fun c' hs => ?_) (hg.backed hrest)
      cases hs with
      | signal => exact ⟨rfl, hanswered⟩
      | body hb => cases hb
    cases hf with
    | complete => exact ⟨.free trivial hstop, .nil⟩
    | completeAgain => exact ⟨hstop, .nil⟩
    | noCall => exact ⟨hstop, .nil⟩
    | noOffer hi _ => cases hi

/-- If the token of a call is signalled after an instruction, the call is answered: no program signals the token, so
that only the handler which has recorded the answer did. -/
lemma Fires.backing_signalled {m m₁ : Machine} {t i rest next sent} (hf : Fires m t i next sent m₁)
    (h : m.Backing) (ht : m.codes[t]? = some (i :: rest)) {c : CallId} (hs : .call c ∈ m₁.loop.signalled) :
    m₁.Answered c := by
  rcases hf.signals with hsame | ⟨token, rfl, hnew⟩
  · exact hf.grows.answered (h.signalled (hsame ▸ hs))
  · rw [hnew] at hs
    rcases List.mem_cons.1 hs with rfl | hs
    · cases h.codes _ (List.mem_append_left _ (List.mem_of_getElem? ht)) with
      | free hi _ => exact hf.grows.answered (hi c .signal).2
    · exact hf.grows.answered (h.signalled hs)

/-- An instruction offers no dialog whose scripts signal a reserved token, as a program's dialog has its scripts from
the program. -/
lemma Fires.unscripted {m m₁ : Machine} {t i rest next sent} (hf : Fires m t i next sent m₁)
    (h : m.Backing) (ht : m.codes[t]? = some (i :: rest)) : m₁.Unscripted := by
  intro d o slot body ho hr o' ho' c hs
  obtain hold | ⟨-, ⟨d', rfl, rfl⟩ | ⟨c', call, -, -, rfl⟩⟩ := hf.offer_before ho
  · exact h.scripts hold hr o' ho' c hs
  · obtain ⟨b, hb, hscript⟩ := programOffer_press hr
    cases hscript
    cases h.codes _ (List.mem_append_left _ (List.mem_of_getElem? ht)) with
    | free hi _ =>
      obtain ⟨hsignal, -⟩ := hi c (.button hb ho' hs)
      cases hsignal
  · obtain ⟨code, -, hanswer⟩ := Call.offer_press hr
    cases hanswer

/-- Every move keeps what is known about the nested runs of calls. -/
lemma step_backing {m : Machine} (mv : Move) (hm : m.Bare) (howned : m.Owned) (h : m.Backing) :
    (m.step mv).Backing := by
  have hg := step_grows m mv
  constructor
  · refine step_throughout mv h.codes (fun hc => hg.backed hc) ?_ ?_ ?_
    · intro t i rest next sent m₁ _ ht hf he
      have hsame : (m₁.goto t (next ++ rest)).Grows (m.step mv) := he ▸ Grows.refl _
      have hgoto := (grows_goto m₁ t (next ++ rest)).trans hsame
      have hback := hf.backed hm h ht fun c hi => howned.confined ht (List.mem_cons_self ..) (by rw [hi]; rfl)
      exact hback.imp (hgoto.backed ·) (hgoto.backed ·)
    · intro token rest task hpump htask
      exact (hg.backed htask).append (hg.backed hpump)
    · intro rest hpanic
      cases hpanic with
      | free _ hrest => exact hg.backed hrest.caught
  · intro c hs
    rcases (steps m mv).fires_or_quiet with ⟨t, i, rest, next, sent, m₁, -, ht, hf, he⟩ | hq
    · rw [he] at hs ⊢
      exact (grows_goto m₁ t (next ++ rest)).answered (hf.backing_signalled h ht hs)
    · exact hg.answered (h.signalled (hq.signalled ▸ hs))
  · rcases (steps m mv).fires_or_quiet with ⟨t, i, rest, next, sent, m₁, -, ht, hf, he⟩ | hq
    · rw [he]
      exact hf.unscripted h ht
    · intro d o slot body ho
      exact h.scripts (hq.dialogs ▸ ho)

/-- On a fresh machine nothing waits for an answer, and no program signals a reserved token. -/
lemma Fresh.backing {m : Machine} (hm : m.Fresh) (hreserved : m.Reserved) : m.Backing where
  codes code hcode := by
    refine .of_free fun i hi => ?_
    have hmem := mem_agenda_of_mem hcode hi
    obtain ⟨o, rfl⟩ := hm.agenda hmem
    exact fun c hs => absurd hs (hreserved.programs hmem c)
  signalled hs := absurd hs (hreserved.signalled _)
  scripts := by
    intro d o slot body ho
    simp [hm.dialogs] at ho

/-- In every run, a call on the UI thread collects its outcome only after it was answered. -/
lemma Fresh.collected {m : Machine} (hm : m.Fresh) (hterm : m.terminal = none) (hov : m.overrides = {})
    (hreserved : m.Reserved) {moves : List Move} {mv : Move} {c : CallId}
    (hx : (m.play moves).Executes mv (.collect c)) (hu : (m.play moves).In .uiThread c) :
    (m.play moves).Answered c := by
  have h : ((m.play moves).Bare ∧ (m.play moves).Owned) ∧ (m.play moves).Backing :=
    play_induction (P := fun m => (m.Bare ∧ m.Owned) ∧ m.Backing)
      ⟨⟨hm.bare hterm hov, hm.owned (by rw [hov]) (by rw [hov])⟩, hm.backing hreserved⟩
      (fun _ mv h => ⟨⟨step_bare mv h.1.1, step_owned mv h.1.2⟩, step_backing mv h.1.1 h.1.2 h.2⟩) moves
  obtain ⟨t, th, rest, -, hth, hcode, -⟩ := hx
  have ht : (m.play moves).codes[t]? = some (.collect c :: rest) := hcode ▸ codes_getElem? hth
  cases h.2.codes _ (List.mem_append_left _ (List.mem_of_getElem? ht)) with
  | free hi _ =>
    rcases hi with hw | hanswered
    · cases hu.unique hw
    · exact hanswered

end MessageBox.Machine
