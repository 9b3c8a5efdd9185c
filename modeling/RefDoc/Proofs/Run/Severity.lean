import Mathlib.Data.List.Induction
import RefDoc.Proofs.Run.ExitCode

/-!
# The gate of a reporter

A reporter may be armed and armed again while events are logged. Each event counts under the policy
of its time, which is that of the last arming (`policyAfter`). What a new reporter says after a
history is read off that (`Reporter.gate_history`), and it is never taken back.
-/

namespace RefDoc

namespace Happening

def arming? : Happening → Option Bool
  | armed pedantic => some pedantic
  | _ => none

theorem fault?_eq_none {x : Happening} :
    x.fault? = none ↔ ∀ e, x = .logged e → e.level ≠ .error := by
  cases x <;> simp [fault?]

theorem fault?_eq_some {x : Happening} {m : String} :
    x.fault? = some m ↔ ∃ e, x = .logged e ∧ e.level = .error ∧ e.message.getD "" = m := by
  cases x <;> simp [fault?]

end Happening

/-! ### Histories -/

/-- The policy of a new gate after a history: that of the last arming. -/
def policyAfter (h : List Happening) : Policy :=
  match h.reverse.findSome? Happening.arming? with
  | some true => .pedantic
  | some false => .lenient
  | none => .disarmed

/-- The event is logged at a time when the policy is in force. -/
def LoggedUnder (h : List Happening) (policy : Policy) (e : Event) : Prop :=
  ∃ before after, h = before ++ .logged e :: after ∧ policyAfter before = policy

/-- The event is the first error that is logged under a pedantic policy. -/
def FirstFault (h : List Happening) (e : Event) : Prop :=
  ∃ before after, h = before ++ .logged e :: after ∧ policyAfter before = .pedantic ∧
    e.level = .error ∧ ∀ e', LoggedUnder before .pedantic e' → e'.level ≠ .error

section Histories

variable {h : List Happening} {x : Happening} {e : Event} {policy : Policy}

theorem policyAfter_concat_armed (h : List Happening) (pedantic : Bool) :
    policyAfter (h ++ [.armed pedantic]) = if pedantic then .pedantic else .lenient := by
  rw [policyAfter, List.reverse_append, List.reverse_singleton, List.singleton_append,
    List.findSome?_cons]
  cases pedantic <;> rfl

theorem policyAfter_concat (plain : ¬ x.IsArming) : policyAfter (h ++ [x]) = policyAfter h := by
  have unarmed : x.arming? = none := by
    cases x with
    | armed => exact absurd trivial plain
    | _ => rfl
  rw [policyAfter, List.reverse_append, List.reverse_singleton, List.singleton_append,
    List.findSome?_cons, unarmed, policyAfter]

theorem concat_eq_iff {α : Type} {l before after : List α} {a b : α} :
    l ++ [a] = before ++ b :: after ↔
      (∃ between, after = between ++ [a] ∧ l = before ++ b :: between) ∨
        (after = [] ∧ l = before ∧ a = b) := by
  rcases after.eq_nil_or_concat with rfl | ⟨between, last, rfl⟩
  · simp
  · rw [List.concat_eq_append, ← List.cons_append, ← List.append_assoc, List.append_singleton_inj]
    constructor
    · rintro ⟨front, rfl⟩
      exact .inl ⟨between, rfl, front⟩
    · rintro (⟨between', same, front⟩ | ⟨empty, -⟩)
      · obtain ⟨rfl, rfl⟩ := List.append_singleton_inj.mp same
        exact ⟨front, rfl⟩
      · simp at empty

theorem loggedUnder_concat : LoggedUnder (h ++ [x]) policy e ↔
    LoggedUnder h policy e ∨ x = .logged e ∧ policyAfter h = policy := by
  constructor
  · rintro ⟨before, after, cut, force⟩
    rcases concat_eq_iff.mp cut with ⟨between, -, cut⟩ | ⟨-, rfl, same⟩
    · exact .inl ⟨before, between, cut, force⟩
    · exact .inr ⟨same, force⟩
  · rintro (⟨before, between, cut, force⟩ | ⟨rfl, force⟩)
    · exact ⟨before, between ++ [x], concat_eq_iff.mpr (.inl ⟨between, rfl, cut⟩), force⟩
    · exact ⟨h, [], rfl, force⟩

theorem firstFault_concat : FirstFault (h ++ [x]) e ↔
    FirstFault h e ∨ x = .logged e ∧ policyAfter h = .pedantic ∧ e.level = .error ∧
      ∀ e', LoggedUnder h .pedantic e' → e'.level ≠ .error := by
  constructor
  · rintro ⟨before, after, cut, fault⟩
    rcases concat_eq_iff.mp cut with ⟨between, -, cut⟩ | ⟨-, rfl, same⟩
    · exact .inl ⟨before, between, cut, fault⟩
    · exact .inr ⟨same, fault⟩
  · rintro (⟨before, between, cut, fault⟩ | ⟨rfl, fault⟩)
    · exact ⟨before, between ++ [x], concat_eq_iff.mpr (.inl ⟨between, rfl, cut⟩), fault⟩
    · exact ⟨h, [], rfl, fault⟩

theorem not_firstFault_nil : ¬ FirstFault [] e := by
  rintro ⟨before, after, cut, -⟩
  simp at cut

theorem not_loggedUnder_nil : ¬ LoggedUnder [] policy e := by
  rintro ⟨before, after, cut, -⟩
  simp at cut

end Histories

/-! ### The gate step by step -/

namespace Gate

theorem policy_history (h : List Happening) :
    (({} : Gate).followAll h).policy = policyAfter h := by
  induction h using List.reverseRecOn with
  | nil => rfl
  | append_singleton h x ih =>
    rw [followAll_append, followAll_cons, followAll_nil]
    by_cases arming : x.IsArming
    · cases x with
      | armed pedantic => rw [policyAfter_concat_armed, follow, arm]
      | _ => exact arming.elim
    · rw [policy_follow _ arming, ih, policyAfter_concat arming]

/-- A step sets the message only if it is an error, the policy pedantic, and there is none. -/
theorem fatal_follow_eq (g : Gate) (x : Happening) :
    (g.follow x).fatal = g.fatal.or (if g.policy = .pedantic then x.fault? else none) := by
  cases x with
  | logged e =>
    cases policy : g.policy <;> cases level : e.level <;>
      simp [follow, observe, Happening.fault?, policy, level]
  | _ => simp [follow, arm, Happening.fault?]

theorem failing_follow {g : Gate} (failing : g.failing = true) (x : Happening) :
    (g.follow x).failing = true := by
  cases x with
  | logged e => exact (failing_observe g e).mpr (.inl failing)
  | _ => exact failing

theorem failing_followAll_of {g : Gate} (failing : g.failing = true) (h : List Happening) :
    (g.followAll h).failing = true := by
  induction h generalizing g with
  | nil => exact failing
  | cons x h ih => exact ih (failing_follow failing x)

theorem failing_history (h : List Happening) :
    (({} : Gate).followAll h).failing = true ↔
      ∃ policy e, LoggedUnder h policy e ∧ policy.Minds e.level := by
  induction h using List.reverseRecOn with
  | nil => simp [not_loggedUnder_nil]
  | append_singleton h x ih =>
    rw [followAll_append, followAll_cons, followAll_nil]
    simp only [loggedUnder_concat, or_and_right, exists_or, ← ih]
    cases x with
    | logged e => simp [follow, failing_observe, policy_history]
    | _ => simp [follow, arm]

theorem fatal_history_none (h : List Happening) :
    (({} : Gate).followAll h).fatal = none ↔ ∀ e, LoggedUnder h .pedantic e → e.level ≠ .error := by
  induction h using List.reverseRecOn with
  | nil => simp [not_loggedUnder_nil]
  | append_singleton h x ih =>
    rw [followAll_append, followAll_cons, followAll_nil, fatal_follow_eq, Option.or_eq_none_iff, ih,
      policy_history]
    simp only [loggedUnder_concat, or_imp, forall_and]
    refine and_congr_right fun _ => ?_
    by_cases pedantic : policyAfter h = .pedantic
    · simp [pedantic, Happening.fault?_eq_none]
    · simp [pedantic]

/-- The message is that of the first error, since a step keeps a message that is there. -/
theorem fatal_history (h : List Happening) (m : String) :
    (({} : Gate).followAll h).fatal = some m ↔ ∃ e, FirstFault h e ∧ e.message.getD "" = m := by
  induction h using List.reverseRecOn with
  | nil => simp [not_firstFault_nil]
  | append_singleton h x ih =>
    rw [followAll_append, followAll_cons, followAll_nil, fatal_follow_eq, Option.or_eq_some_iff, ih,
      fatal_history_none, policy_history]
    simp only [firstFault_concat, or_and_right, exists_or]
    refine or_congr_right ?_
    by_cases pedantic : policyAfter h = .pedantic
    · simp only [pedantic, if_true, Happening.fault?_eq_some]
      constructor
      · rintro ⟨clean, e, logged, level, said⟩
        exact ⟨e, ⟨logged, trivial, level, clean⟩, said⟩
      · rintro ⟨e, ⟨logged, -, level, clean⟩, said⟩
        exact ⟨clean, e, logged, level, said⟩
    · simp [pedantic]

theorem raised_history (h : List Happening) :
    (({} : Gate).followAll h).raised = true ↔
      ∃ e, LoggedUnder h .pedantic e ∧ e.level = .error := by
  rw [raised_eq, Option.isSome_iff_ne_none, ne_eq, fatal_history_none]
  simp only [not_forall, exists_prop, ne_eq, not_not]

theorem check_eq_error {g : Gate} {err : Error} :
    g.check = .error err ↔ ∃ m, g.fatal = some m ∧ err = .fatal m := by
  cases fatal : g.fatal <;> simp [check_eq, fatal, eq_comm]

end Gate

/-! ### Reporters -/

theorem Policy.minds_iff {policy : Policy} {level : Level} : policy.Minds level ↔
    level = .error ∧ (policy = .lenient ∨ policy = .pedantic) ∨
      level = .warn ∧ policy = .pedantic := by
  cases policy <;> simp [Minds]

namespace Reporter

/-- What becomes of a reporter when something happens. That it is armed is logged as well. -/
def follow (r : Reporter) : Happening → Reporter
  | .logged e => r.observe e
  | .armed pedantic => (r.arm pedantic).observe (r.arm pedantic).armedEvent
  | _ => r

def followAll (r : Reporter) (h : List Happening) : Reporter := h.foldl follow r

theorem gate_follow (r : Reporter) (x : Happening) : (r.follow x).gate = r.gate.follow x := by
  cases x with
  | armed pedantic => exact Gate.observe_harmless _ (.inl rfl)
  | _ => rfl

theorem gate_followAll (r : Reporter) (h : List Happening) :
    (r.followAll h).gate = r.gate.followAll h := by
  induction h generalizing r with
  | nil => rfl
  | cons x h ih =>
    rw [Gate.followAll_cons, ← gate_follow]
    exact ih (r.follow x)

/-- **A reporter says what the policies of the time minded.** A run fails for an error logged while
the gate was armed, or for a warning while it was pedantic; it is stopped for an error while it was
pedantic, and the first of them is reported. Nothing that happens later takes that back. -/
theorem gate_history (h : List Happening) :
    let r := ({} : Reporter).followAll h
    (r.gate.failing = true ↔ ∃ policy e, LoggedUnder h policy e ∧
      (e.level = .error ∧ (policy = .lenient ∨ policy = .pedantic) ∨
        e.level = .warn ∧ policy = .pedantic)) ∧
    (r.gate.raised = true ↔ ∃ e, LoggedUnder h .pedantic e ∧ e.level = .error) ∧
    (r.gate.check = .ok () ↔ r.gate.raised = false) ∧
    (∀ err, r.gate.check = .error err ↔
      ∃ e, FirstFault h e ∧ err = .fatal (e.message.getD "")) ∧
    (r.gate.raised = true → r.gate.failing = true) ∧
    ∀ later, let r' := r.followAll later
      (r.gate.failing = true → r'.gate.failing = true) ∧
      (r.gate.raised = true → r'.gate.raised = true) ∧
      ∀ err, r.gate.check = .error err → r'.gate.check = .error err := by
  intro r
  have gate : r.gate = ({} : Gate).followAll h := gate_followAll {} h
  have fails := Gate.failing_history h
  have stops := Gate.raised_history h
  rw [← gate] at fails stops
  refine ⟨by simp only [fails, Policy.minds_iff], stops, ?_, fun err => ?_, fun raised => ?_,
    fun later => ?_⟩
  · cases fatal : r.gate.fatal <;> simp [Gate.check_eq, Gate.raised_eq, fatal]
  · rw [Gate.check_eq_error, gate]
    simp only [Gate.fatal_history]
    grind
  · obtain ⟨e, logged, level⟩ := stops.mp raised
    exact fails.mpr ⟨.pedantic, e, logged, .inl level⟩
  · intro r'
    have gate' : r'.gate = r.gate.followAll later := gate_followAll r later
    rw [gate']
    refine ⟨fun failing => Gate.failing_followAll_of failing later, fun raised => ?_,
      fun err checked => ?_⟩
    · obtain ⟨m, fatal⟩ := Gate.raised_iff.mp raised
      exact Gate.raised_iff.mpr ⟨m, Gate.fatal_followAll fatal later⟩
    · obtain ⟨m, fatal, rfl⟩ := Gate.check_eq_error.mp checked
      exact Gate.check_eq_error.mpr ⟨m, Gate.fatal_followAll fatal later, rfl⟩

/-- What was logged before does not count, and what is logged afterwards comes too late. -/
example : (({} : Reporter).followAll [.logged (.error "early"), .armed true,
    .logged (.error "first"), .armed false, .logged (.error "late")]).gate.check =
      .error (.fatal "first") := rfl

end Reporter

end RefDoc
