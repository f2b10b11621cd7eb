import MessageBox.Proofs.Routing

/-!
# Dismissal in the two toolkits

Esc dismisses the innermost dialog of a terminal, and a program that uses the headless toolkit tries to dismiss the
last pending one. A dialog that is not cancelable stays in both. A cancelable dialog goes in the headless toolkit,
and in a terminal only if it has a button: the two agree about a dialog just if it has a button or is not cancelable
(`dismissal_agrees`).
-/

namespace MessageBox

/-! ### The terminal -/

namespace Terminal

variable {α : Type}

namespace View

/-- Each of some keys, typed in turn, moves the focus or does nothing. -/
def Idles : View α → List Key → Prop
  | _, [] => True
  | v, k :: keys => ((v.handle k).1 = .redraw ∨ (v.handle k).1 = .ignored) ∧ (v.handle k).2.Idles keys

/-- A key that is ignored leaves the view as it is. -/
lemma handle_ignored {v : View α} {k : Key} (h : (v.handle k).1 = .ignored) : v.handle k = (.ignored, v) := by
  have hv := v.handles k
  generalize v.handle k = result at h hv
  obtain ⟨outcome, v'⟩ := result
  cases h
  cases hv
  rfl

/-- Esc dismisses a cancelable dialog that has a button. -/
lemma handle_escape {v : View α} {k : Key} (hk : k.code = .escape) :
    v.handle k = (if v.dialog.cancelable = true ∧ v.dialog.buttons ≠ [] then .dismiss else .ignored, v) := by
  cases hbuttons : v.dialog.buttons with
  | nil => simp [handle, hbuttons] -- the key is not looked at
  | cons b bs => simp [handle, hbuttons, hk]

end View

namespace Stack

/-- A further open view makes a difference. -/
lemma push_ne (s : Stack α) (v : View α) : s.push v ≠ s := by
  intro h
  have hviews : s.views ++ [v] = s.views := congrArg views h
  simp at hviews

/-- A key that is ignored makes no difference to further keys. -/
lemma type_cons_ignored {s : Stack α} {v : View α} {k : Key} (keys : List Key) (h : v.handle k = (.ignored, v)) :
    (s.push v).type (k :: keys) = (s.push v).type keys := by
  rw [type, route, top_push]
  simp only
  rw [h]

/-- Idle keys run nothing, and the dialog stays open on top of the others. -/
lemma type_idle {s : Stack α} {v : View α} {keys : List Key} (more : List Key) (h : v.Idles keys) :
    (s.push v).type (keys ++ more) = (s.push (v.after keys)).type more ∧ (v.after keys).dialog = v.dialog := by
  induction keys generalizing v with
  | nil => exact ⟨rfl, rfl⟩
  | cons k keys ih =>
    obtain ⟨hk, hkeys⟩ := h
    obtain ⟨htype, hdialog⟩ := ih hkeys
    refine ⟨?_, hdialog.trans (v.handle_dialog k)⟩
    refine Eq.trans ?_ htype
    rcases hk with hredraw | hignored
    · exact type_redraw _ (Prod.ext hredraw rfl)
    · rw [View.handle_ignored hignored]
      exact type_cons_ignored _ (View.handle_ignored hignored)

/-- Esc runs nothing, and takes a cancelable dialog that has a button away. -/
lemma type_escape {s : Stack α} {v : View α} {k : Key} (hk : k.code = .escape) :
    (s.push v).type [k] =
      ([], if v.dialog.cancelable = true ∧ v.dialog.buttons ≠ [] then s else s.push v) := by
  rw [type, route, top_push]
  simp only
  rw [View.handle_escape hk]
  split_ifs <;> simp [type, View.conclude]

end Stack

end Terminal

/-! ### The headless toolkit -/

namespace Machine

variable {m : Machine} {t : ThreadId} {d : DialogId} {o : Offer} {rest : List Instr}

/-- A try to dismiss the last pending dialog takes it away and leaves the others, and reports it. -/
def Dismisses (m : Machine) (t : ThreadId) (d : DialogId) (rest : List Instr) : Prop :=
  m.dismiss t rest =
    (({ m with desk := { m.desk with pending := m.desk.pending.dropLast } }).emit t
      (.dismissed (some d))).goto t rest

/-- A try to dismiss the last pending dialog is refused, and leaves all dialogs. -/
def RefusesDismissal (m : Machine) (t : ThreadId) (title : String) (rest : List Instr) : Prop :=
  m.dismiss t rest = ((m.emit t (.dismissalRefused title)).emit t (.dismissed none)).goto t rest

/-- A last pending dialog that is cancelable is dismissed. -/
lemma dismisses_of_cancelable (hd : m.desk.pending.getLast? = some d) (ho : m.dialogs[d]? = some o)
    (hc : o.dialog.cancelable = true) : m.Dismisses t d rest := by
  simp [Dismisses, dismiss, hd, ho, hc]

/-- A last pending dialog that is not cancelable is not dismissed. -/
lemma refusesDismissal_of_not_cancelable (hd : m.desk.pending.getLast? = some d) (ho : m.dialogs[d]? = some o)
    (hc : o.dialog.cancelable = false) : m.RefusesDismissal t o.dialog.title rest := by
  simp [RefusesDismissal, dismiss, hd, ho, hc]

/-- A dismissal is not refused at the same time. -/
lemma Dismisses.not_refuses {title : String} (h : m.Dismisses t d rest) (hd : m.desk.pending.getLast? = some d) :
    ¬ m.RefusesDismissal t title rest := by
  intro hr
  have hpending : m.desk.pending.dropLast = m.desk.pending := congrArg (·.desk.pending) (h.symm.trans hr)
  have hlength := congrArg List.length hpending
  cases hp : m.desk.pending with
  | nil => simp [hp] at hd
  | cons id ids => simp [hp] at hlength

end Machine

/-! ### Agreement -/

open Machine Terminal

/-- Whatever dialogs are open below, and whatever idle keys were typed before: Esc runs no action, and closes a
dialog just if it is cancelable and has a button; the headless toolkit, where the same dialog is the last pending
one, dismisses it just if it is cancelable. So the toolkits agree about a dialog just if it has a button or is not
cancelable. The other dialogs stay as they were in all cases. -/
theorem dismissal_agrees (below : Stack Reaction) {v : View Reaction} {keys : List Key} {esc : Key}
    (hkeys : v.Idles keys) (hesc : esc.code = .escape) (m : Machine) (t : ThreadId) (rest : List Instr)
    {d : DialogId} {origin : Origin} (hlast : m.desk.pending.getLast? = some d)
    (hoffer : m.dialogs[d]? = some ⟨v.dialog, origin⟩) :
    let typed := (below.push v).type (keys ++ [esc])
    (typed = ([], below) ↔ v.dialog.cancelable = true ∧ v.dialog.buttons ≠ []) ∧
    (m.Dismisses t d rest ↔ v.dialog.cancelable = true) ∧
    ((typed = ([], below) ↔ m.Dismisses t d rest) ↔ (v.dialog.cancelable = true → v.dialog.buttons ≠ [])) ∧
    (typed = ([], below) ∨ ∃ focus, typed = ([], below.push ⟨v.dialog, focus⟩)) ∧
    (m.Dismisses t d rest ∨ m.RefusesDismissal t v.dialog.title rest) := by
  intro typed
  have htyped : typed = ([], if v.dialog.cancelable = true ∧ v.dialog.buttons ≠ [] then below
      else below.push ⟨v.dialog, (v.after keys).focus⟩) := by
    obtain ⟨htype, hdialog⟩ := Stack.type_idle [esc] hkeys
    rw [Stack.type_escape hesc, hdialog] at htype
    rw [← hdialog] at htype ⊢
    exact htype
  have hterminal : typed = ([], below) ↔ v.dialog.cancelable = true ∧ v.dialog.buttons ≠ [] := by
    rw [htyped]
    split_ifs with h
    · exact iff_of_true rfl h
    · exact iff_of_false (fun heq => below.push_ne _ (congrArg Prod.snd heq)) h
  have hheadless : m.Dismisses t d rest ↔ v.dialog.cancelable = true := by
    refine ⟨fun h => ?_, dismisses_of_cancelable hlast hoffer⟩
    by_contra hc
    exact h.not_refuses hlast (refusesDismissal_of_not_cancelable hlast hoffer (eq_false_of_ne_true hc))
  refine ⟨hterminal, hheadless, ?_, ?_, ?_⟩
  · rw [hterminal, hheadless]
    exact and_iff_left_iff_imp
  · rw [htyped]
    split_ifs
    · exact .inl rfl
    · exact .inr ⟨_, rfl⟩
  · cases hc : v.dialog.cancelable with
    | true => exact .inl (hheadless.2 hc)
    | false => exact .inr (refusesDismissal_of_not_cancelable (o := ⟨v.dialog, origin⟩) hlast hoffer hc)

/-- A question that is not cancelable. -/
def lockedQuestion : Dialog Reaction :=
  .build "Save" "Save the file?" [.cancelable false, .button ⟨.positive, "Yes", .script []⟩]

/-- A tip that is cancelable. -/
def openTip : Dialog Reaction := .build "Tip" "Digits press buttons." [.button ⟨.positive, "OK", .script []⟩]

/-- A terminal where the question is open. -/
def questionOpen : Stack Reaction := ({} : Stack Reaction).push ⟨lockedQuestion, 0⟩

/-- A desk where the tip was offered after the question, and both are pending. -/
def tipAfterQuestion : Machine where
  desk := { pending := [0, 1] }
  dialogs := [⟨lockedQuestion, .program⟩, ⟨openTip, .program⟩]

/-- A tip with a button is dismissed in both toolkits, also after a tab and a digit beyond its buttons, and leaves
the question below it. -/
theorem dismissal_agrees_openTip :
    (questionOpen.push ⟨openTip, 0⟩).type [{ code := .tab }, { code := .char '2' }, { code := .escape }] =
      ([], questionOpen) ∧
    tipAfterQuestion.Dismisses 0 1 [] := by
  let tip : View Reaction := ⟨openTip, 0⟩
  let esc : Key := { code := .escape }
  have hidle : tip.Idles [{ code := .tab }, { code := .char '2' }] := ⟨.inl rfl, .inr rfl, trivial⟩
  have hesc : esc.code = .escape := rfl
  obtain ⟨hterminal, hheadless, -⟩ := dismissal_agrees questionOpen hidle hesc tipAfterQuestion 0 [] rfl rfl
  exact ⟨hterminal.2 ⟨rfl, List.cons_ne_nil _ _⟩, hheadless.2 rfl⟩

/-- A note that is cancelable and has no buttons. -/
def bareNote : Dialog Reaction := .build "Note" "Saved." []

/-- A terminal where the note is open. -/
def noteOpen : Stack Reaction := ({} : Stack Reaction).push ⟨bareNote, 0⟩

/-- A desk where the note is pending. -/
def notePending : Machine where
  desk := { pending := [0] }
  dialogs := [⟨bareNote, .program⟩]

/-- A cancelable dialog without buttons is dismissed in the headless toolkit, and stays in a terminal. -/
theorem note_not_dismissed :
    bareNote.cancelable = true ∧ notePending.Dismisses 0 0 [] ∧
    noteOpen.type [{ code := .escape }] = ([], noteOpen) :=
  ⟨rfl, rfl, rfl⟩

end MessageBox
