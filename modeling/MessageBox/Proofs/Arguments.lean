import Mathlib.Tactic.Lemma
import MessageBox.CommandLine.Invocation

/-!
# From arguments to an invocation

The parser only accepts a button number from one to three (`parse_headlessPress`). Arguments make an invocation
exactly if there are one to three labels and the button is one of theirs (`make_ok_iff`), and then the
invocation has these labels (`of_make`).
-/

namespace MessageBox

/-! ### What the parser accepts -/

namespace CommandLine

/-- What a reader yields, if it yields something, satisfies `P`. -/
def Yields {ε α : Type} (P : α → Prop) (x : Except ε α) : Prop := ∀ a, x = .ok a → P a

namespace Yields

variable {ε α β : Type} {P : α → Prop} {Q : β → Prop}

/-- A reader that yields a value with the property does so. -/
lemma ok {a : α} (h : P a) : Yields P (.ok a : Except ε α) := by
  rintro _ ⟨⟩
  exact h

/-- A reader that fails yields nothing, so that nothing is to be shown. -/
lemma error {e : ε} : Yields P (.error e) := nofun

/-- A reader may go on with what another one yields. -/
lemma bind {x : Except ε α} {f : α → Except ε β} (hx : Yields P x) (hf : ∀ a, P a → Yields Q (f a)) :
    Yields Q (x.bind f) := by
  cases x with
  | error e => exact error
  | ok a => exact hf a (hx a rfl)

/-- What a reader yields may be changed into something with another property. -/
lemma map {x : Except ε α} {f : α → β} (hx : Yields P x) (hf : ∀ a, P a → Q (f a)) : Yields Q (x.map f) := by
  cases x with
  | error e => exact error
  | ok a => exact ok (hf a (hx a rfl))

end Yields

/-- The button to press, if there is one, is one a dialog can have. -/
def Args.Pressable (args : Args) : Prop := ∀ n, args.headlessPress = some n → 1 ≤ n ∧ n ≤ 3

namespace Reading

/-- What has been read so far may press only a button that a dialog can have. -/
def Pressable (r : Reading) : Prop := r.args.Pressable

/-- An option with a value asks for no other button than a dialog can have. -/
lemma assign_pressable {args : Args} (h : args.Pressable) (o : Switch) (value : String) :
    Yields Args.Pressable (assign args o value) := by
  intro args' h'
  cases o with
  | headlessPress =>
    simp only [assign] at h'
    split at h'
    · next press hpress =>
      cases h'
      rintro _ ⟨⟩
      simpa using (Option.filter_eq_some_iff.1 hpress).2
    · cases h'
  | icon | preset | timeoutMs =>
    simp only [assign] at h'
    split at h'
    · cases h'
      exact h
    · cases h'
  | dataDir =>
    simp only [assign] at h'
    split at h'
    · cases h'
    · cases h'
      exact h
  | help => cases h'
  | action | worker | logLevel | saveConfig =>
    cases h'
    exact h

variable {r : Reading}

/-- Taking an option keeps the button one that a dialog can have. -/
lemma take_pressable (h : r.Pressable) (o : Switch) (value : Option String) :
    Yields Pressable (r.take o value) := by
  cases value with
  | none => exact .error
  | some value =>
    rw [take]
    split
    · exact .error
    · exact (assign_pressable h o value).map fun _ => id

/-- Settling an option that waits for its value keeps the button one that a dialog can have. -/
lemma settle_pressable (h : r.Pressable) : Yields Pressable r.settle := by
  unfold settle
  split
  · exact .ok h
  · have hr : Pressable { r with pending := none } := h
    exact take_pressable hr _ _

/-- An option that has its value keeps the button one that a dialog can have. -/
lemma option_pressable (h : r.Pressable) (o : Switch) (value : String) : Yields Pressable (r.option o value) :=
  (settle_pressable h).bind fun _ h => take_pressable h o _

/-- An option that waits for its value keeps the button one that a dialog can have. -/
lemma await_pressable (h : r.Pressable) (o : Switch) : Yields Pressable (r.await o) :=
  (settle_pressable h).bind fun _ h => .ok h

/-- A positional argument keeps the button one that a dialog can have. -/
lemma positional_pressable (h : r.Pressable) (text : String) : Yields Pressable (r.positional text) := by
  rw [positional]
  split
  · exact .error
  · exact (settle_pressable h).bind fun _ h => .ok h

/-- A long option keeps the button one that a dialog can have. -/
lemma long_pressable (h : r.Pressable) (cs : List Char) : Yields Pressable (r.long cs) := by
  unfold long
  dsimp only
  split
  · exact .error
  · split
    · exact .error
    · exact option_pressable h _ _
  · split
    · exact option_pressable h _ _
    · exact await_pressable h _

/-- Short options keep the button one that a dialog can have. -/
lemma short_pressable (h : r.Pressable) (cs : List Char) : Yields Pressable (r.short cs) := by
  induction cs generalizing r with
  | nil => exact .ok h
  | cons c rest ih =>
    rw [short]
    split
    · exact .error
    · split
      · exact (option_pressable h _ _).bind fun _ h => ih h
      · split
        · exact await_pressable h _
        · exact option_pressable h _ _
        · exact option_pressable h _ _

/-- Reading an argument keeps the button one that a dialog can have. -/
lemma read_pressable (h : r.Pressable) (arg : String) : Yields Pressable (r.read arg) := by
  unfold read
  split
  · exact positional_pressable h arg
  · split
    · exact .ok h
    · exact long_pressable h _
    · exact short_pressable h _
    · split
      · exact .ok h
      · exact positional_pressable h arg

/-- Reading some arguments keeps the button one that a dialog can have. -/
lemma reads_pressable (h : r.Pressable) (argv : List String) : Yields Pressable (argv.foldlM read r) := by
  induction argv generalizing r with
  | nil => exact .ok h
  | cons arg argv ih =>
    rw [List.foldlM_cons]
    exact (read_pressable h arg).bind fun _ h => ih h

/-- Arguments that were read to their end press only a button that a dialog can have. -/
lemma finish_pressable (h : r.Pressable) : Yields Args.Pressable r.finish := by
  refine (settle_pressable h).bind fun r h => ?_
  by_cases hboth : Switch.action ∈ r.given ∧ Switch.preset ∈ r.given
  · rw [if_pos hboth]
    exact .error
  · rw [if_neg hboth]
    dsimp only
    split
    · exact .ok h
    · exact .error

end Reading

/-- The parser only accepts a button that a dialog can have. -/
lemma parse_headlessPress (argv : List String) : Yields Args.Pressable (parse argv) :=
  (Reading.reads_pressable (r := {}) nofun argv).bind fun _ h => Reading.finish_pressable h

/-- The labels that the arguments ask for: the given ones, else those of a preset. -/
def Args.labels (args : Args) : List String :=
  if args.actions.isEmpty then (args.preset.getD .ok).labels else args.actions

end CommandLine

/-! ### What the arguments make -/

/-- A specification that was made has the actions that it was made with. -/
lemma Spec.make_actions {caption message : String} {icon : Icon} {actions : List String} {spec : Spec}
    (h : make caption message icon actions = .ok spec) : spec.actions = actions := by
  unfold make at h
  split at h
  · cases h
  · split at h
    · cases h
    · cases h
      rfl

namespace Invocation

open CommandLine (Args)

variable {args : Args} {settings : Settings} {inv : Invocation}

/-- The specification of the labels that the arguments ask for, if there are one to three of them. -/
lemma make_cases (args : Args) (settings : Settings) :
    (∃ spec : Spec, spec.actions = args.labels ∧ make args settings =
      if args.headlessPress.any fun n => spec.actions.length < n then
        .error (.pressOutOfRange (args.headlessPress.getD 0) spec.actions.length)
      else .ok ⟨spec, settings.options, args.worker, args.headlessPress.map (· - 1)⟩) ∨
    (¬ (1 ≤ args.labels.length ∧ args.labels.length ≤ maxActions) ∧ ∃ e, make args settings = .error (.spec e)) := by
  unfold make CommandLine.Args.labels
  cases hempty : args.actions.isEmpty with
  | true => exact .inl ⟨_, rfl, rfl⟩
  | false =>
    dsimp only
    cases hspec : Spec.make args.caption args.message args.icon args.actions with
    | error e =>
      refine .inr ⟨fun hlength => ?_, e, rfl⟩
      obtain ⟨spec, hok⟩ := (Spec.make_isOk_iff args.caption args.message args.icon args.actions).2 hlength
      rw [hspec] at hok
      cases hok
    | ok spec => exact .inl ⟨spec, Spec.make_actions hspec, rfl⟩

/-- What is in an invocation that the arguments make. -/
lemma of_make (h : make args settings = .ok inv) :
    inv.spec.actions = args.labels ∧ inv.options = settings.options ∧ inv.worker = args.worker ∧
      inv.headlessPress = args.headlessPress.map (· - 1) ∧
      ∀ n, args.headlessPress = some n → n ≤ args.labels.length := by
  rcases make_cases args settings with ⟨spec, hactions, hmake⟩ | ⟨-, e, hmake⟩
  · rw [hmake] at h
    split at h
    · cases h
    · next hpress =>
      cases h
      refine ⟨hactions, rfl, rfl, rfl, fun n hn => ?_⟩
      simpa [hn, hactions] using hpress
  · rw [hmake] at h
    cases h

/-- Arguments make an invocation exactly if they ask for one to three labels and a button of these. -/
lemma make_ok_iff (args : Args) (settings : Settings) :
    (∃ inv, make args settings = .ok inv) ↔
      1 ≤ args.labels.length ∧ args.labels.length ≤ maxActions ∧
        ∀ n, args.headlessPress = some n → n ≤ args.labels.length := by
  constructor
  · rintro ⟨inv, h⟩
    obtain ⟨hactions, -, -, -, hpress⟩ := of_make h
    exact ⟨hactions ▸ inv.spec.actions_pos, hactions ▸ inv.spec.actions_le, hpress⟩
  · rintro ⟨hpos, hle, hpress⟩
    rcases make_cases args settings with ⟨spec, hactions, hmake⟩ | ⟨hlength, -⟩
    · refine ⟨_, hmake.trans (if_neg ?_)⟩
      cases hn : args.headlessPress with
      | none => simp
      | some n => simpa [hactions] using hpress n hn
    · exact absurd ⟨hpos, hle⟩ hlength

end Invocation

end MessageBox
