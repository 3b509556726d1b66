import BrokerRelay.Dial.Activity
import Mathlib.Tactic.Common
/-!
# When activities end

`EndsAt` and `PendingAt` are all that a dial can tell of an activity: at a given time it has ended
with a value, or it still goes on. The laws compute both from the parts of an activity. A deadline
turns the one into the other: what is pending when it expires ends there without a value.
-/

namespace BrokerRelay.Dial.Activity

variable {α β ε : Type}

/-- The activity ends at a time with a value. -/
def EndsAt (a : Activity α) (time : Nat) (x : α) : Prop := a.ended = some (time, x)

/-- The activity still goes on at a time; it may never end. -/
def PendingAt (a : Activity α) (time : Nat) : Prop := ∀ t x, a.EndsAt t x → time < t

/-! ## Ends -/

theorem EndsAt.unique {a : Activity α} {t t' : Nat} {x x' : α} (h : a.EndsAt t x)
    (h' : a.EndsAt t' x') : t = t' ∧ x = x' := by
  have heq := Option.some.inj (h.symm.trans h')
  exact Prod.mk.inj heq

/-- At any time an activity has ended or is pending. -/
theorem endsAt_or_pendingAt (a : Activity α) (time : Nat) :
    (∃ t x, a.EndsAt t x ∧ t ≤ time) ∨ a.PendingAt time := by
  by_cases h : ∃ t x, a.EndsAt t x ∧ t ≤ time
  · exact .inl h
  · right
    intro t x hends
    by_contra hlate
    exact h ⟨t, x, hends, by omega⟩

/-- What has ended is not pending. -/
theorem EndsAt.not_pendingAt {a : Activity α} {t time : Nat} {x : α} (h : a.EndsAt t x)
    (hle : t ≤ time) : ¬a.PendingAt time := by
  intro hpending
  have := hpending t x h
  omega

/-- What ends later is pending. -/
theorem EndsAt.pendingAt {a : Activity α} {t time : Nat} {x : α} (h : a.EndsAt t x)
    (hlt : time < t) : a.PendingAt time := by
  intro t' x' h'
  obtain ⟨rfl, -⟩ := h.unique h'
  exact hlt

/-! ## Parts -/

@[simp]
theorem endsAt_now_iff {x y : α} {t : Nat} : (now x).EndsAt t y ↔ t = 0 ∧ y = x := by
  constructor
  · intro h
    obtain ⟨rfl, rfl⟩ := EndsAt.unique (a := now x) (t := 0) (x := x) rfl h
    exact ⟨rfl, rfl⟩
  · rintro ⟨rfl, rfl⟩
    rfl

theorem not_pendingAt_now (x : α) (time : Nat) : ¬(now x).PendingAt time :=
  EndsAt.not_pendingAt (t := 0) (x := x) rfl (Nat.zero_le time)

/-- What is there at once is not waited for. -/
theorem bind_now (x : α) (f : α → Activity β) : (now x).bind f = f x := by
  simp [bind, now, delayed]

theorem andThen_now_error (e : ε) (f : α → Activity (Except ε β)) :
    (now (.error e)).andThen f = now (.error e) :=
  bind_now _ _

/-- What is there at once is not touched by a deadline. -/
theorem within_now (x : α) (limit : Nat) : (now x).within limit = now (some x) := by
  simp [within, now]

theorem endsAt_map_iff {a : Activity α} {f : α → β} {t : Nat} {y : β} :
    (a.map f).EndsAt t y ↔ ∃ x, a.EndsAt t x ∧ y = f x := by
  unfold EndsAt map
  rcases a.ended with _ | ⟨t', x⟩
  · simp
  · simp only [Option.map_some, Option.some.injEq, Prod.mk.injEq]
    constructor
    · rintro ⟨rfl, rfl⟩
      exact ⟨x, ⟨rfl, rfl⟩, rfl⟩
    · rintro ⟨_, ⟨rfl, rfl⟩, rfl⟩
      exact ⟨rfl, rfl⟩

theorem pendingAt_map_iff {a : Activity α} {f : α → β} {time : Nat} :
    (a.map f).PendingAt time ↔ a.PendingAt time := by
  constructor
  · intro h t x hends
    exact h t (f x) (endsAt_map_iff.2 ⟨x, hends, rfl⟩)
  · intro h t y hends
    obtain ⟨x, hx, -⟩ := endsAt_map_iff.1 hends
    exact h t x hx

/-- A row of two activities ends when the second one does, which starts at the end of the first. -/
theorem endsAt_bind_iff {a : Activity α} {f : α → Activity β} {t : Nat} {y : β} :
    (a.bind f).EndsAt t y ↔
      ∃ t₁ x t₂, a.EndsAt t₁ x ∧ (f x).EndsAt t₂ y ∧ t = t₁ + t₂ := by
  unfold EndsAt bind
  rcases a.ended with _ | ⟨t₁, x⟩
  · simp
  · simp only [delayed, Option.map_eq_some_iff, Option.some.injEq, Prod.mk.injEq]
    constructor
    · rintro ⟨⟨t₂, y'⟩, hy, rfl, rfl⟩
      exact ⟨t₁, x, t₂, ⟨rfl, rfl⟩, hy, rfl⟩
    · rintro ⟨_, _, t₂, ⟨rfl, rfl⟩, hy, rfl⟩
      exact ⟨(t₂, y), hy, rfl, rfl⟩

/-- A row of two activities is pending while one of them is. -/
theorem pendingAt_bind_iff {a : Activity α} {f : α → Activity β} {time : Nat} :
    (a.bind f).PendingAt time ↔
      a.PendingAt time ∨ ∃ t x, a.EndsAt t x ∧ t ≤ time ∧ (f x).PendingAt (time - t) := by
  constructor
  · intro h
    rcases a.endsAt_or_pendingAt time with ⟨t, x, hx, hle⟩ | hpending
    · -- the first part is over, so it is the second one that is pending
      refine .inr ⟨t, x, hx, hle, ?_⟩
      intro t₂ y hy
      have := h (t + t₂) y (endsAt_bind_iff.2 ⟨t, x, t₂, hx, hy, rfl⟩)
      omega
    · exact .inl hpending
  · rintro h t y hends
    obtain ⟨t₁, x, t₂, hx, hy, rfl⟩ := endsAt_bind_iff.1 hends
    rcases h with hpending | ⟨t, x', hx', hle, hpending⟩
    · have := hpending t₁ x hx
      omega
    · obtain ⟨rfl, rfl⟩ := hx.unique hx'
      have := hpending t₂ y hy
      omega

/-! ## Failures -/

/-- A row fails in its first activity or in its second. -/
theorem endsAt_andThen_error_iff {a : Activity (Except ε α)} {f : α → Activity (Except ε β)}
    {t : Nat} {e : ε} :
    (a.andThen f).EndsAt t (.error e) ↔ a.EndsAt t (.error e) ∨
      ∃ t₁ x t₂, a.EndsAt t₁ (.ok x) ∧ (f x).EndsAt t₂ (.error e) ∧ t = t₁ + t₂ := by
  rw [andThen, endsAt_bind_iff]
  constructor
  · rintro ⟨t₁, r, t₂, hr, hnext, rfl⟩
    cases r with
    | ok x => exact .inr ⟨t₁, x, t₂, hr, hnext, rfl⟩
    | error e' =>
      obtain ⟨rfl, he⟩ := endsAt_now_iff.1 hnext
      obtain rfl := Except.error.inj he
      exact .inl hr
  · rintro (hfailed | ⟨t₁, x, t₂, hx, hnext, rfl⟩)
    · exact ⟨t, _, 0, hfailed, rfl, rfl⟩
    · exact ⟨t₁, _, t₂, hx, hnext, rfl⟩

/-- A row is pending while its first activity is, and then while its second one is. -/
theorem pendingAt_andThen_iff {a : Activity (Except ε α)} {f : α → Activity (Except ε β)}
    {time : Nat} :
    (a.andThen f).PendingAt time ↔ a.PendingAt time ∨
      ∃ t x, a.EndsAt t (.ok x) ∧ t ≤ time ∧ (f x).PendingAt (time - t) := by
  rw [andThen, pendingAt_bind_iff]
  apply or_congr_right
  constructor
  · rintro ⟨t, r, hr, hle, hpending⟩
    cases r with
    | ok x => exact ⟨t, x, hr, hle, hpending⟩
    | error e => exact absurd hpending (not_pendingAt_now _ _)
  · rintro ⟨t, x, hx, hle, hpending⟩
    exact ⟨t, _, hx, hle, hpending⟩

/-! ## Deadlines -/

/-- What ends by its deadline is not touched by it. -/
theorem endsAt_within_some_iff {a : Activity α} {limit t : Nat} {x : α} :
    (a.within limit).EndsAt t (some x) ↔ a.EndsAt t x ∧ t ≤ limit := by
  unfold EndsAt within
  rcases a.ended with _ | ⟨t', x'⟩
  · simp
  · by_cases hle : t' ≤ limit
    · simp only [hle, if_true, Option.some.injEq, Prod.mk.injEq]
      constructor
      · rintro ⟨rfl, rfl⟩
        exact ⟨⟨rfl, rfl⟩, hle⟩
      · exact fun h => h.1
    · simp only [hle, if_false, Option.some.injEq, Prod.mk.injEq, reduceCtorEq, and_false, false_iff]
      rintro ⟨⟨rfl, rfl⟩, h⟩
      exact hle h

/-- What is pending at its deadline ends there, without a value. -/
theorem endsAt_within_none_iff {a : Activity α} {limit t : Nat} :
    (a.within limit).EndsAt t none ↔ t = limit ∧ a.PendingAt limit := by
  unfold PendingAt EndsAt within
  rcases a.ended with _ | ⟨t', x'⟩
  · simp [eq_comm]
  · by_cases hle : t' ≤ limit
    · simp [hle]
    · simp only [hle, if_false, Option.some.injEq, Prod.mk.injEq, and_true]
      constructor
      · rintro rfl
        refine ⟨rfl, ?_⟩
        rintro _ _ ⟨rfl, rfl⟩
        omega
      · exact fun h => h.1.symm

/-- Before its deadline, what is cut short is pending just as it would be without one. -/
theorem pendingAt_within_iff {a : Activity α} {limit time : Nat} :
    (a.within limit).PendingAt time ↔ time < limit ∧ a.PendingAt time := by
  constructor
  · intro h
    rcases a.endsAt_or_pendingAt limit with ⟨t, x, hx, hle⟩ | hpending
    · have hlt := h t (some x) (endsAt_within_some_iff.2 ⟨hx, hle⟩)
      exact ⟨by omega, hx.pendingAt hlt⟩
    · have hlt := h limit none (endsAt_within_none_iff.2 ⟨rfl, hpending⟩)
      refine ⟨hlt, fun t x hx => ?_⟩
      have := hpending t x hx
      omega
  · rintro ⟨hlt, hpending⟩ t r hr
    cases r with
    | none =>
      obtain ⟨rfl, -⟩ := endsAt_within_none_iff.1 hr
      exact hlt
    | some x => exact hpending t x (endsAt_within_some_iff.1 hr).1

/-! ## Sockets -/

/-- The sockets of an activity are opened one after the other. -/
def InOrder (a : Activity α) : Prop := a.opened.Pairwise fun x y => x.1 ≤ y.1

/-- A deadline opens nothing. -/
theorem opened_within_of_nil {a : Activity α} (h : a.opened = []) (limit : Nat) :
    (a.within limit).opened = [] := by
  unfold within
  rcases a.ended with _ | ⟨time, x⟩
  · simp [h]
  · by_cases hle : time ≤ limit <;> simp [h, hle]

/-- If nothing is opened after the first activity of a row, its sockets are those of the row. -/
theorem opened_andThen {a : Activity (Except ε α)} {f : α → Activity (Except ε β)}
    (h : ∀ x, (f x).opened = []) : (a.andThen f).opened = a.opened := by
  unfold andThen bind
  rcases a.ended with _ | ⟨time, e | x⟩
  · rfl
  · exact List.append_nil _
  · simp [delayed, h]

/-- What waits opens nothing: a row behind it only starts later. -/
theorem bind_waiting (time : Nat) (x : α) (f : α → Activity β) :
    (waiting (some (time, x))).bind f = (f x).delayed time := rfl

theorem EndsAt.delayed {a : Activity α} {t : Nat} {x : α} (h : a.EndsAt t x) (time : Nat) :
    (a.delayed time).EndsAt (time + t) x := by
  unfold EndsAt at h
  simp only [EndsAt, Activity.delayed, h, Option.map_some]

theorem targets_delayed (time : Nat) (a : Activity α) : (a.delayed time).targets = a.targets := by
  simp only [targets, delayed, List.map_map]
  rfl

theorem InOrder.delayed {a : Activity α} (h : a.InOrder) (time : Nat) : (a.delayed time).InOrder := by
  refine List.pairwise_map.2 (List.Pairwise.imp ?_ h)
  intro x y hle
  exact Nat.add_le_add_left hle time

/-- A row opens the sockets of its first activity and then those of its second one. -/
theorem targets_bind_of_endsAt {a : Activity α} {f : α → Activity β} {t : Nat} {x : α}
    (h : a.EndsAt t x) : (a.bind f).targets = a.targets ++ (f x).targets := by
  unfold EndsAt at h
  rw [← targets_delayed t (f x)]
  simp only [targets, bind, h, List.map_append]

/-- A row whose first activity never ends opens no other sockets. -/
theorem targets_bind_of_endless {a : Activity α} {f : α → Activity β} (h : a.ended = none) :
    (a.bind f).targets = a.targets := by
  simp only [targets, bind, h]

/-- A row that starts with one socket is in order if what follows is. -/
theorem inOrder_bind_opening {address : SocketAddress} {x : Timely α} {f : α → Activity β}
    (h : ∀ y, (f y).InOrder) : ((opening address x).bind f).InOrder := by
  rcases x with _ | ⟨t, y⟩
  · exact List.pairwise_singleton _ _
  · refine List.pairwise_cons.2 ⟨fun _ _ => Nat.zero_le _, ?_⟩
    exact (h y).delayed t

/-- What ends by its deadline has opened all of its sockets. -/
theorem targets_within_of_endsAt {a : Activity α} {limit t : Nat} {x : α} (h : a.EndsAt t x)
    (hle : t ≤ limit) : (a.within limit).targets = a.targets := by
  unfold EndsAt at h
  simp only [targets, within, h, hle, if_true]

/-- What is kept of a row is a front of it, if nothing is kept behind what is left out. -/
theorem filter_prefix_of_pairwise {γ : Type} {p : γ → Bool} {xs : List γ}
    (h : xs.Pairwise fun x y => p y = true → p x = true) : xs.filter p <+: xs := by
  induction xs with
  | nil => exact List.nil_prefix
  | cons x xs ih =>
    obtain ⟨hx, hxs⟩ := List.pairwise_cons.1 h
    cases hp : p x with
    | true =>
      rw [List.filter_cons_of_pos hp]
      exact (List.prefix_cons_inj x).2 (ih hxs)
    | false =>
      have hnone : (x :: xs).filter p = [] := by
        refine List.filter_eq_nil_iff.2 fun y hy hkept => ?_
        rcases List.mem_cons.1 hy with rfl | hy
        · exact Bool.false_ne_true (hp.symm.trans hkept)
        · exact Bool.false_ne_true (hp.symm.trans (hx y hy hkept))
      rw [hnone]
      exact List.nil_prefix

/-- A deadline leaves a front of the sockets, if they are opened in order. -/
theorem targets_within_front {a : Activity α} (h : a.InOrder) (limit : Nat) :
    (a.within limit).targets <+: a.targets := by
  have hcut : a.opened.filter (·.1 ≤ limit) <+: a.opened := by
    refine filter_prefix_of_pairwise (h.imp ?_)
    intro x y hle hkept
    simp only [decide_eq_true_eq] at hkept ⊢
    exact Nat.le_trans hle hkept
  unfold within
  rcases a.ended with _ | ⟨t, x⟩
  · exact hcut.map Prod.snd
  · by_cases hle : t ≤ limit
    · simp only [hle, if_true]
      exact List.prefix_refl _
    · simp only [hle, if_false]
      exact hcut.map Prod.snd

end BrokerRelay.Dial.Activity
