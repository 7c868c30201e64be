/-!
Lists that are given out member by member, the last one again and again.
-/

namespace Provision

/-- The next member and what is left. A list that was empty from the start gives a default. -/
def takeNext {α : Type} (default : α) : List α → α × List α
  | [] => (default, [])
  | [last] => (last, [last])
  | first :: second :: rest => (first, second :: rest)

end Provision
