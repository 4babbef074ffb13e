/-!
# Attempt counts

Attempts are counted in a 32-bit column. The count stays at its highest value once it is there.
-/

namespace WebhookDelivery

/-- A number of attempts, or the number of one of them. -/
structure Count where
  value : Int
  value_ge : -2147483648 ≤ value
  value_le : value ≤ 2147483647
  deriving DecidableEq, Repr

namespace Count

@[ext] theorem ext' {a b : Count} (h : a.value = b.value) : a = b := by
  cases a; cases b; simp_all

instance : Inhabited Count := ⟨⟨0, by decide, by decide⟩⟩

/-- No attempt yet. -/
def zero : Count := ⟨0, by decide, by decide⟩

/-- The count of this value, if the column can hold it. -/
def of? (n : Int) : Option Count :=
  if h : -2147483648 ≤ n ∧ n ≤ 2147483647 then some ⟨n, h.1, h.2⟩ else none

/-- One more, up to the highest value (`saturating_add`). -/
def next (c : Count) : Count :=
  if h : c.value < 2147483647 then ⟨c.value + 1, by have := c.value_ge; omega, by omega⟩ else c

/-- The next count as a number. -/
theorem value_next (c : Count) : c.next.value = min (c.value + 1) 2147483647 := by
  have := c.value_le
  unfold next
  split
  · change c.value + 1 = _
    omega
  · omega

end Count

end WebhookDelivery
