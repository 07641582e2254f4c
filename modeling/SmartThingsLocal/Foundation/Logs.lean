import Mathlib.Tactic

/-!
# Logs

A log grows by one event at its end. Wherever the longer log is divided at an event, that
event is the new one, or the shorter log divides there too.
-/

namespace List

variable {α : Type} {log before after : List α} {new event : α}

theorem eq_append_cons_of_concat (split : log ++ [new] = before ++ event :: after) :
    (log = before ∧ new = event ∧ after = []) ∨
      ∃ earlier, after = earlier ++ [new] ∧ log = before ++ event :: earlier := by
  rcases eq_nil_or_concat' after with rfl | ⟨earlier, last, rfl⟩
  · rcases append_inj' split rfl with ⟨same, sameEvent⟩
    exact .inl ⟨same, singleton_inj.mp sameEvent, rfl⟩
  · rw [← cons_append, ← append_assoc] at split
    rcases append_inj' split rfl with ⟨same, sameLast⟩
    exact .inr ⟨earlier, by rw [sameLast], same⟩

/-- A history of the longer log is all of it or a history of the shorter one. -/
theorem concat_prefix_concat (isPrefix : before ++ [event] <+: log ++ [new]) :
    (before = log ∧ event = new) ∨ before ++ [event] <+: log := by
  rcases prefix_concat_iff.mp isPrefix with whole | earlier
  · rcases append_inj' whole rfl with ⟨same, sameEvent⟩
    exact .inl ⟨same, singleton_inj.mp sameEvent⟩
  · exact .inr earlier

end List
