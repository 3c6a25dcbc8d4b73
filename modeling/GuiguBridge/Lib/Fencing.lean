import Mathlib.Tactic.Common

/-!
# Fenced locks

A lock that is granted with a token which grows at every grant.  A holder that lost the lock
without noticing still carries its old token, and every write that checks the token refuses
it.

* `Cell` — the lock as the store sees it: the last owner, its token, and whether it is held,
  free, or suspect (its holder vanished and nobody may take it);
* `Move` — what may happen to a cell in one step.  **Only a free or missing cell is granted**,
  and the grant takes the next token;
* `Move.token_le` — tokens never go back;
* `Certified` — an owner and a token that were once granted together: as long as the cell
  still shows that token, it shows that owner.
-/

namespace Fencing

inductive Phase where
  | held | free | suspect
  deriving DecidableEq

/-- A fenced lock that has been granted at least once. -/
structure Cell (ο : Type) where
  owner : ο
  token : Nat
  phase : Phase

variable {ο : Type}

/-- The token of the last grant; `0` before the first one. -/
def token : Option (Cell ο) → Nat
  | none => 0
  | some c => c.token

/-- What one step may do to a cell. -/
inductive Move : Option (Cell ο) → Option (Cell ο) → Prop where
  | stay (c : Option (Cell ο)) : Move c c
  | grant (c : Option (Cell ο)) (o : ο) (hfree : ∀ x, c = some x → x.phase = .free) :
      Move c (some ⟨o, token c + 1, .held⟩)
  | leave (c : Cell ο) (p : Phase) (hheld : c.phase = .held) :
      Move (some c) (some { c with phase := p })

theorem Move.token_le {c c' : Option (Cell ο)} (h : Move c c') : token c ≤ token c' := by
  cases h with
  | stay => exact Nat.le_refl _
  | grant o hfree => exact Nat.le_succ _
  | leave c p hheld => exact Nat.le_refl _

/-- `o` was granted the token `n`: while the cell shows `n` it shows `o`. -/
def Certified (o : ο) (n : Nat) (c : Option (Cell ο)) : Prop :=
  n ≤ token c ∧ ∀ x, c = some x → x.token = n → x.owner = o

theorem Certified.grant (c : Option (Cell ο)) (o : ο) (n : Nat) (hn : n = token c + 1) :
    Certified o n (some ⟨o, n, .held⟩) := by
  subst hn
  refine ⟨Nat.le_refl _, ?_⟩
  intro x hx _
  cases hx
  rfl

theorem Certified.move {o : ο} {n : Nat} {c c' : Option (Cell ο)} (h : Certified o n c)
    (hm : Move c c') : Certified o n c' := by
  obtain ⟨hle, howner⟩ := h
  refine ⟨Nat.le_trans hle hm.token_le, ?_⟩
  intro x hx hn
  cases hm with
  | stay => exact howner x hx hn
  | grant o' hfree =>
    cases hx
    have hlt : token c + 1 = n := hn
    omega
  | leave c p hheld =>
    cases hx
    exact howner c rfl hn

end Fencing
